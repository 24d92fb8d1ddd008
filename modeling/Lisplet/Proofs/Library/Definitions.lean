import Lisplet.Library
import Lisplet.Proofs.Evaluation.Parameters
import Lisplet.Proofs.Evaluation.Rules
import Lisplet.Proofs.Reader.Engine
import Lisplet.Proofs.Value.Equality
import Mathlib.Data.List.Nodup

namespace Lisplet

theorem Frame.get?_ofPairs {pairs : List (Symbol × Value)} {binding : Symbol × Value}
    (hnodup : (pairs.map Prod.fst).Nodup) (h : binding ∈ pairs) :
    (ofPairs pairs).get? binding.1 = some binding.2 := by
  obtain ⟨value, hvalue⟩ := Option.isSome_iff_exists.mp (contains_ofPairs h)
  obtain ⟨front, back, hbindings, _⟩ := List.lookup_eq_some_iff.mp hvalue
  have hfound : (binding.1, value) ∈ pairs := mem_ofPairs (by simp [hbindings])
  rw [hvalue, ← List.inj_on_of_nodup_map hnodup hfound h rfl]

/-- Without floats, which are not compared by what they are, and without closures. -/
def Value.isPlain : Value → Bool
  | float _ | closure _ _ _ _ _ => false
  | cons first rest => first.isPlain && rest.isPlain
  | _ => true

theorem Value.isPlain_iff {value : Value} :
    value.isPlain = true ↔ value.isFloatFree = true ∧ value.closures = [] := by
  induction value with
  | float => exact iff_of_false Bool.false_ne_true fun h => Bool.false_ne_true h.1
  | closure => exact iff_of_false Bool.false_ne_true fun h => List.cons_ne_nil _ _ h.2
  | cons first rest ihFirst ihRest =>
      rw [isPlain, Bool.and_eq_true, ihFirst, ihRest, isFloatFree_cons, closures,
        List.append_eq_nil_iff, and_and_and_comm]
  | _ => exact iff_of_true rfl ⟨rfl, rfl⟩

theorem Value.eq_of_same_plain {left right : Value} (hplain : left.isPlain = true)
    (hsame : left.same right = true) : left = right := by
  obtain ⟨hfloat, hclosures⟩ := isPlain_iff.mp hplain
  refine eq_of_same hfloat (fun closure hclosure => ?_) hsame
  rw [hclosures] at hclosure
  cases hclosure

namespace Library

/-! What the text of the library defines. -/

/-- A closure made at the top level and the name that it is bound to. -/
structure Definition where
  name : Symbol
  kind : ClosureKind
  parameters : Parameters
  body : Value

def definer : ClosureKind → Symbol
  | .function => ⟨"defn"⟩
  | .expander => ⟨"defmacro"⟩

namespace Definition

def closure (definition : Definition) (id : Nat) : Value :=
  .closure id definition.kind definition.parameters definition.body .global

def parameterList (definition : Definition) : Value :=
  .ofList (definition.parameters.symbols.map .symbol)

/-- How the definition is written with the expander for its kind. -/
def form (definition : Definition) : Value :=
  .cons (.symbol (definer definition.kind)) (.cons (.symbol definition.name)
    (.cons definition.parameterList definition.body))

def expanded (definition : Definition) : Value :=
  .ofList [.symbol SpecialForm.define.symbol, .symbol definition.name,
    .cons (.symbol (Evaluator.makes definition.kind).symbol)
      (.cons definition.parameterList definition.body)]

def ofParts? (kind : ClosureKind) (name : Symbol) (parameters body : Value) :
    Option Definition :=
  match Parameters.ofValue parameters, body.toList? with
  | .ok parameters, some (_ :: _) => some ⟨name, kind, parameters, body⟩
  | _, _ => none

def ofForm? : Value → Option Definition
  | .cons (.symbol head) (.cons (.symbol name) (.cons first rest)) =>
      if head = definer .function then ofParts? .function name first rest
      else if head = definer .expander then ofParts? .expander name first rest
      else
        match first with
        | .cons (.symbol _) (.cons parameters body) => ofParts? .expander name parameters body
        | _ => none
  | _ => none

def agrees (definition other : Definition) : Bool :=
  definition.name = other.name && definition.kind = other.kind &&
    definition.parameters = other.parameters && definition.body.isPlain &&
    definition.body.same other.body

theorem eq_of_agrees {definition other : Definition} (h : definition.agrees other = true) :
    definition = other := by
  obtain ⟨name, kind, parameters, body⟩ := definition
  obtain ⟨name', kind', parameters', body'⟩ := other
  simp only [agrees, Bool.and_eq_true, decide_eq_true_eq] at h
  obtain ⟨⟨⟨⟨rfl, rfl⟩, rfl⟩, hplain⟩, hsame⟩ := h
  rw [Value.eq_of_same_plain hplain hsame]

end Definition

def definitionsIn (forms : List Value) : List Definition :=
  forms.filterMap Definition.ofForm?

def var (name : String) : Value :=
  .symbol ⟨name⟩

def call (name : String) (operands : List Value) : Value :=
  .ofList (var name :: operands)

def function (name : String) (parameters : List String) (expression : Value) : Definition :=
  ⟨⟨name⟩, .function, ⟨parameters.map .mk, none⟩, .ofList [expression]⟩

def variadic (name : String) (parameters : List String) (others : String) (expression : Value) :
    Definition :=
  ⟨⟨name⟩, .function, ⟨parameters.map .mk, some ⟨others⟩⟩, .ofList [expression]⟩

def expander (name : String) (parameters : List String) (others : String) (expression : Value) :
    Definition :=
  ⟨⟨name⟩, .expander, ⟨parameters.map .mk, some ⟨others⟩⟩, .ofList [expression]⟩

def definingTemplate (kind : ClosureKind) : Value :=
  call "quasiquote" [call "def" [call "unquote" [var "name"],
    .ofList [.symbol (Evaluator.makes kind).symbol, call "unquote" [var "params"],
      call "unquote-splicing" [var "body"]]]]

def defining (kind : ClosureKind) : Definition :=
  expander (definer kind).name ["name", "params"] "body" (definingTemplate kind)

def second : Definition :=
  function "second" ["l"] (call "first" [call "rest" [var "l"]])

def map : Definition :=
  function "map" ["f", "l"]
    (call "if" [call "empty?" [var "l"], .emptyList,
      call "cons" [call "f" [call "first" [var "l"]],
        call "map" [var "f", call "rest" [var "l"]]]])

def filter : Definition :=
  function "filter" ["f", "l"]
    (call "if" [call "empty?" [var "l"], .emptyList,
      call "if" [call "f" [call "first" [var "l"]],
        call "cons" [call "first" [var "l"], call "filter" [var "f", call "rest" [var "l"]]],
        call "filter" [var "f", call "rest" [var "l"]]]])

def reduce : Definition :=
  function "reduce" ["f", "acc", "l"]
    (call "if" [call "empty?" [var "l"], var "acc",
      call "reduce" [var "f", call "f" [var "acc", call "first" [var "l"]],
        call "rest" [var "l"]]])

def reverse : Definition :=
  function "reverse" ["l"]
    (call "reduce" [call "fn" [.ofList [var "acc", var "x"], call "cons" [var "x", var "acc"]],
      .emptyList, var "l"])

def cond : Definition :=
  expander "cond" [] "clauses"
    (call "if" [call "empty?" [var "clauses"], .nil,
      call "quasiquote" [call "if" [call "unquote" [call "first" [var "clauses"]],
        call "unquote" [call "second" [var "clauses"]],
        call "cond" [call "unquote-splicing" [call "rest" [call "rest" [var "clauses"]]]]]]])

def and : Definition :=
  expander "and" [] "xs"
    (call "if" [call "empty?" [var "xs"], .bool true,
      call "if" [call "empty?" [call "rest" [var "xs"]], call "first" [var "xs"],
        call "quasiquote" [call "if" [call "unquote" [call "first" [var "xs"]],
          call "and" [call "unquote-splicing" [call "rest" [var "xs"]]], .bool false]]]])

def or : Definition :=
  expander "or" [] "xs"
    (call "if" [call "empty?" [var "xs"], .nil,
      call "quasiquote" [.ofList [
        call "fn" [.ofList [var "or-value"], call "if" [var "or-value", var "or-value",
          call "or" [call "unquote-splicing" [call "rest" [var "xs"]]]]],
        call "unquote" [call "first" [var "xs"]]]]])

def letIn : Definition :=
  expander "let" ["bindings"] "body"
    (call "quasiquote" [.ofList [
      call "fn" [call "unquote" [call "map" [var "first", var "bindings"]],
        call "unquote-splicing" [var "body"]],
      call "unquote-splicing" [call "map" [var "second", var "bindings"]]]])

def folded (operator : String) : Value :=
  call "reduce" [call "fn" [.ofList [var "a", var "b"],
    call "send" [var "a", .keyword operator, var "b"]], var "x", var "xs"]

/-- The functions `+` and `*`. -/
def accumulating (operator : String) : Definition :=
  variadic operator ["x"] "xs" (folded operator)

def minus : Definition :=
  variadic "-" ["x"] "xs"
    (call "if" [call "empty?" [var "xs"], call "send" [.int 0, .keyword "-", var "x"],
      folded "-"])

def str : Definition :=
  variadic "str" [] "xs"
    (call "reduce" [call "fn" [.ofList [var "acc", var "x"],
      call "send" [var "acc", .keyword "+", call "send" [var "x", .keyword "to_s"]]],
      .str "", var "xs"])

def described : List Definition :=
  [defining .expander, defining .function, second, map, filter, reduce, reverse, cond, and, or,
    letIn, accumulating "+", accumulating "*", minus, str]

def initialNames : List Symbol :=
  SpecialForm.all.map SpecialForm.symbol ++ Primitive.all.map Primitive.symbol

/-- How the definitions are written: the first one makes the expander that the others use. -/
def written : List Definition → List Value
  | [] => []
  | first :: rest => first.expanded :: rest.map Definition.form

def ready (names : List Symbol) : List Definition → Bool
  | [] => true
  | definition :: rest =>
      decide (definer definition.kind ∈ names) && ready (definition.name :: names) rest

structure Describes (forms : List Value) : Prop where
  described : ∀ definition ∈ described,
    ((definitionsIn forms).find? (·.name = definition.name)).any definition.agrees = true
  nodup : ((definitionsIn forms).map Definition.name ++ initialNames).Nodup
  ready : ready (((definitionsIn forms).map Definition.name).take 1) (definitionsIn forms).tail = true
  plain : (Value.ofList forms).isPlain = true
  written : (Value.ofList forms).same (.ofList (written (definitionsIn forms))) = true

instance (forms : List Value) : Decidable (Describes forms) :=
  decidable_of_iff (_ ∧ _ ∧ _ ∧ _ ∧ _)
    ⟨fun h => ⟨h.1, h.2.1, h.2.2.1, h.2.2.2.1, h.2.2.2.2⟩,
      fun h => ⟨h.described, h.nodup, h.ready, h.plain, h.written⟩⟩

theorem find?_name {definitions : List Definition}
    (hnodup : (definitions.map Definition.name).Nodup) {definition : Definition}
    (h : definition ∈ definitions) :
    definitions.find? (·.name = definition.name) = some definition := by
  induction definitions with
  | nil => cases h
  | cons first rest ih =>
      rw [List.map_cons, List.nodup_cons] at hnodup
      rcases List.mem_cons.mp h with rfl | hrest
      · exact List.find?_cons_of_pos (by simp)
      · have hother : first.name ≠ definition.name := fun heq =>
          hnodup.1 (heq ▸ List.mem_map_of_mem hrest)
        rw [List.find?_cons_of_neg (by simpa using hother)]
        exact ih hnodup.2 hrest

theorem mem_special (form : SpecialForm) : form ∈ SpecialForm.all := by
  cases form <;> decide

theorem mem_primitive (primitive : Primitive) : primitive ∈ Primitive.all := by
  cases primitive <;> decide

theorem symbol_mem_initialNames (form : SpecialForm) : form.symbol ∈ initialNames :=
  List.mem_append_left _ (List.mem_map_of_mem (mem_special form))

def formsOf [RegexEngine] (text : List Char) : List Value :=
  match (Reader.readAll text).outcome with
  | .ok forms => forms
  | .error _ => []

set_option maxRecDepth 100000 in
theorem describes_refused :
    (@Reader.readAll .refusing text.toList).outcome.isOk = true ∧
      Describes (@formsOf .refusing text.toList) := by
  rw [show text = String.ofList _ from rfl, String.toList_ofList]
  decide +kernel

theorem nodup_initial :
    ((SpecialForm.all.map (fun form => (form.symbol, Value.special form)) ++
      Primitive.all.map (fun primitive => (primitive.symbol, Value.primitive primitive))).map
        Prod.fst).Nodup := by
  rw [List.map_append, List.map_map, List.map_map]
  exact (List.nodup_append.mp describes_refused.2.nodup).2.1

theorem get?_initial_special (files : Files) (form : SpecialForm) :
    (State.initial files).store.globals.get? form.symbol = some (.special form) :=
  Frame.get?_ofPairs nodup_initial (List.mem_append_left _
    (List.mem_map.mpr ⟨form, mem_special form, rfl⟩))

theorem get?_initial_primitive (files : Files) (primitive : Primitive) :
    (State.initial files).store.globals.get? primitive.symbol = some (.primitive primitive) :=
  Frame.get?_ofPairs nodup_initial (List.mem_append_right _
    (List.mem_map.mpr ⟨primitive, mem_primitive primitive, rfl⟩))

variable [RegexEngine]

def definitionsOf (text : List Char) : List Definition :=
  definitionsIn (formsOf text)

def definition? (name : Symbol) : Option Definition :=
  (definitionsOf text.toList).find? (·.name = name)

/-- What a name stands for before a program runs: what the library makes it, or what it is from the
start. A closure is known but for its id. -/
def given? (id : Nat) (name : Symbol) : Option Value :=
  ((definition? name).map (·.closure id)).or ((State.initial .empty).store.globals.get? name)

/-- In the environment, the names stand for what they stand for before a program runs. -/
def Resolves (state : State) (environment : Environment) (names : List Symbol) : Prop :=
  ∀ name ∈ names, ∃ id value, given? id name = some value ∧
    state.store.get? environment name = some value

theorem formsOf_eq_of_isOk {text : List Char}
    (hread : (@Reader.readAll .refusing text).outcome.isOk = true) :
    formsOf text = @formsOf .refusing text := by
  simp only [formsOf, Reader.readAll_eq_of_isOk (RegexEngine.refusing_within _) hread]

theorem describes_text : Describes (formsOf text.toList) := by
  rw [formsOf_eq_of_isOk describes_refused.1]
  exact describes_refused.2

theorem definition?_of_mem {definition : Definition}
    (h : definition ∈ definitionsOf text.toList) :
    definition? definition.name = some definition :=
  find?_name (List.nodup_append.mp describes_text.nodup).1 h

theorem definition?_of_described {definition : Definition} (h : definition ∈ described) :
    definition? definition.name = some definition := by
  obtain ⟨found, hfound, hagrees⟩ :=
    (Option.any_eq_true _ _).mp (describes_text.described definition h)
  rw [definition?, definitionsOf, hfound, Definition.eq_of_agrees hagrees]

theorem mem_of_described {definition : Definition} (h : definition ∈ described) :
    definition ∈ definitionsOf text.toList := by
  have hfound := definition?_of_described h
  rw [definition?] at hfound
  exact List.mem_of_find?_eq_some hfound

theorem definition?_of_initial {name : Symbol} (h : name ∈ initialNames) :
    definition? name = none := by
  refine List.find?_eq_none.mpr fun definition hdefinition heq => ?_
  have hdisjoint := (List.nodup_append.mp describes_text.nodup).2.2
  exact hdisjoint _ (List.mem_map_of_mem hdefinition) name h (of_decide_eq_true heq)

theorem given?_of_described {definition : Definition} (h : definition ∈ described) (id : Nat) :
    given? id definition.name = some (definition.closure id) := by
  rw [given?, definition?_of_described h]
  rfl

theorem given?_special (form : SpecialForm) (id : Nat) :
    given? id form.symbol = some (.special form) := by
  rw [given?, definition?_of_initial (symbol_mem_initialNames form), get?_initial_special]
  rfl

theorem given?_primitive (primitive : Primitive) (id : Nat) :
    given? id primitive.symbol = some (.primitive primitive) := by
  have hname : primitive.symbol ∈ initialNames :=
    List.mem_append_right _ (List.mem_map_of_mem (mem_primitive primitive))
  rw [given?, definition?_of_initial hname, get?_initial_primitive]
  rfl

namespace Resolves

variable {state : State} {environment : Environment} {names : List Symbol}

theorem closure (h : Resolves state environment names) {definition : Definition}
    (hdescribed : definition ∈ described) (hname : definition.name ∈ names) :
    ∃ id, state.store.get? environment definition.name = some (definition.closure id) := by
  obtain ⟨id, value, hgiven, hbound⟩ := h definition.name hname
  rw [given?_of_described hdescribed] at hgiven
  cases hgiven
  exact ⟨id, hbound⟩

theorem primitive (h : Resolves state environment names) (primitive : Primitive)
    (hname : primitive.symbol ∈ names) :
    state.store.get? environment primitive.symbol = some (.primitive primitive) := by
  obtain ⟨id, value, hgiven, hbound⟩ := h primitive.symbol hname
  rw [given?_primitive] at hgiven
  cases hgiven
  exact hbound

theorem isSome (h : Resolves state environment names) {name : Symbol} (hname : name ∈ names) :
    (state.store.get? environment name).isSome = true := by
  obtain ⟨id, value, _, hbound⟩ := h name hname
  rw [hbound]
  rfl

theorem of_preserves {after : State} (h : Resolves state environment names)
    (hframes : ∀ index ∈ environment.locals, index < state.store.locals.size)
    (hpreserves : state.store.Preserves after.store) : Resolves after environment names := by
  intro name hname
  obtain ⟨id, value, hgiven, hbound⟩ := h name hname
  exact ⟨id, value, hgiven, hpreserves.get? hframes hbound⟩

theorem inside (h : Resolves state environment names)
    (hframes : ∀ index ∈ environment.locals, index < state.store.locals.size)
    {parameters : Parameters} (hnames : ∀ name ∈ names, name ∉ parameters.symbols)
    (arguments : List Value) :
    Resolves (state.aside [parameters.frame arguments])
      (environment.push state.store.locals.size) names := by
  intro name hname
  obtain ⟨id, value, hgiven, hbound⟩ := h name hname
  refine ⟨id, value, hgiven, ?_⟩
  rw [state.get?_aside _ hframes, Parameters.get?_frame_of_not_mem (hnames name hname), hbound]
  rfl

end Resolves

end Library

end Lisplet
