import Lisplet.Proofs.Library.Bootstrap
import Lisplet.Proofs.Reader.ListSyntax
import Lisplet.Regex.PatternEngine
import Mathlib.Data.List.Forall2

namespace Lisplet

/-! The text of a closure is read back as a form that makes a closure like it. -/

namespace Reader

/-! Texts of lists whose items are one space apart. -/

def spaced (texts : List (List Char)) : List Char :=
  texts.flatMap (' ' :: ·)

variable {text : List Char} {value : Value} {texts : List (List Char)} {values : List Value}

theorem intercalate_space (text : List Char) (texts : List (List Char)) :
    [' '].intercalate (text :: texts) = text ++ spaced texts := by
  induction texts generalizing text with
  | nil => simp [spaced]
  | cons next rest ih =>
      rw [List.intercalate_cons_cons, ih]
      simp [spaced]

theorem toList_write_following (names : ClosureNames) (items : List Value) :
    ((Value.ofList items).write names .following).toList =
      spaced (items.map fun item => (item.inspect names).toList) := by
  induction items with
  | nil => simp [Value.ofList, Value.write, spaced]
  | cons item rest ih =>
      change (Value.write names .following (.cons item (.ofList rest))).toList = _
      rw [Value.write, String.toList_append, String.toList_append, ih]
      simp [spaced, Value.inspect]

variable [RegexEngine]

theorem row_spaced (hfirst : StandsFor text value) (h : List.Forall₂ StandsFor texts values) :
    Row (text ++ spaced texts) (value :: values) := by
  induction h generalizing text value with
  | nil =>
      rw [spaced, List.flatMap_nil, List.append_nil]
      exact .single hfirst
  | @cons next _ texts _ hnext _ ih =>
      have hspace : IsSeparator [' '] := ⟨.blank rfl .nil, rfl⟩
      have htext : text ++ spaced (next :: texts) = text ++ [' '] ++ (next ++ spaced texts) := by
        simp [spaced]
      rw [htext]
      exact .cons hfirst hspace (ih hnext)

theorem Row.standsFor {row : List Char} (h : Row row values) :
    StandsFor ('(' :: (row ++ [')'])) (.ofList values) := by
  refine standsFor_parentheses fun rest => ?_
  have hclose := dropLayout_visible (show isVisible ')' = true from rfl) rest
  have hinside : Completes [] (row ++ ')' :: rest) (.ofList values) rest := by
    refine h.completes rfl ?_
    rw [List.append_nil]
    exact completes_close hclose
  simpa using hinside

theorem standsFor_spaced (hfirst : StandsFor text value)
    (h : List.Forall₂ StandsFor texts values) :
    StandsFor ('(' :: (text ++ spaced texts ++ [')'])) (.ofList (value :: values)) :=
  (row_spaced hfirst h).standsFor

theorem standsFor_readable (names : ClosureNames) (h : value.Readable .alone) :
    StandsFor (value.inspect names).toList value := by
  intro rest hrest
  have hspells := readsBack names h ((value.inspect names).toList ++ rest).length
    (by rw [List.length_append]; exact Nat.le_add_right _ _)
  exact hspells.read rfl hrest

theorem standsFor_symbol {name : Symbol} (h : IsSymbolName name.name.toList) :
    StandsFor name.name.toList (.symbol name) :=
  standsFor_of_spells fun _ => spells_symbol h

theorem standsFor_symbols {symbols : List Symbol}
    (h : ∀ symbol ∈ symbols, IsSymbolName symbol.name.toList) :
    List.Forall₂ StandsFor (symbols.map fun symbol => symbol.name.toList)
      (symbols.map Value.symbol) := by
  rw [List.forall₂_map_left_iff, List.forall₂_map_right_iff, List.forall₂_same]
  exact fun symbol hsymbol => standsFor_symbol (h symbol hsymbol)

theorem standsFor_parameters {parameters : Parameters}
    (h : ∀ symbol ∈ parameters.symbols, IsSymbolName symbol.name.toList) :
    StandsFor parameters.text.toList (.ofList (parameters.symbols.map .symbol)) := by
  have htext : parameters.text.toList =
      '(' :: ([' '].intercalate (parameters.symbols.map fun symbol => symbol.name.toList) ++
        [')']) := by
    simp [Parameters.text, String.toList_intercalate, Function.comp_def]
  rw [htext]
  have hsymbols := standsFor_symbols h
  cases hlist : parameters.symbols with
  | nil => exact Row.nil.standsFor
  | cons symbol rest =>
      rw [hlist] at hsymbols
      rw [List.map_cons, intercalate_space]
      cases hsymbols with
      | cons hfirst hrest => exact standsFor_spaced hfirst hrest

theorem standsFor_body (names : ClosureNames) {items : List Value}
    (h : ∀ item ∈ items, item.Readable .alone) :
    List.Forall₂ StandsFor (items.map fun item => (item.inspect names).toList) items := by
  rw [List.forall₂_map_left_iff, List.forall₂_same]
  exact fun item hitem => standsFor_readable names (h item hitem)

end Reader

namespace ClosureNames

theorem get?_push_next (names : ClosureNames) : names.push.get? names.next = none := by
  simp [get?, push, next]

theorem get?_assign_push (names : ClosureNames) (name : Symbol) :
    (names.push.assign names.next name).get? names.next = some name := by
  rw [assign, get?_push_next]
  simp [get?, push, next]

end ClosureNames

namespace Library

open Evaluator Reader

variable {names : ClosureNames} {id : Nat} {kind : ClosureKind} {parameters : Parameters}
  {items : List Value} {scope : Environment}

theorem toList_inspect_closure :
    ((Value.closure id kind parameters (.ofList items) scope).inspect names).toList =
      '(' :: ((kind.head (names.get? id)).toList ++ spaced (parameters.text.toList ::
        items.map fun item => (item.inspect names).toList) ++ [')']) := by
  simp [Value.inspect, Value.write, Value.Position.place, toList_write_following, spaced]

theorem head_unnamed (kind : ClosureKind) : kind.head none = (makes kind).symbol.name := by
  cases kind <;> rfl

theorem head_named (kind : ClosureKind) (name : Symbol) :
    (kind.head (some name)).toList = (definer kind).name.toList ++ ' ' :: name.name.toList := by
  cases kind <;> simp [ClosureKind.head, definer]

section

variable [RegexEngine]

theorem standsFor_unnamed (hname : names.get? id = none)
    (hsymbols : ∀ symbol ∈ parameters.symbols, IsSymbolName symbol.name.toList)
    (hbody : ∀ item ∈ items, item.Readable .alone) :
    StandsFor ((Value.closure id kind parameters (.ofList items) scope).inspect names).toList
      (.ofList (.symbol (makes kind).symbol :: .ofList (parameters.symbols.map .symbol) ::
        items)) := by
  have hhead : IsSymbolName (makes kind).symbol.name.toList := by cases kind <;> decide
  rw [toList_inspect_closure, hname, head_unnamed]
  exact standsFor_spaced (standsFor_symbol hhead)
    (.cons (standsFor_parameters hsymbols) (standsFor_body names hbody))

theorem standsFor_named {name : Symbol} (hname : names.get? id = some name)
    (hreadable : IsSymbolName name.name.toList)
    (hsymbols : ∀ symbol ∈ parameters.symbols, IsSymbolName symbol.name.toList)
    (hbody : ∀ item ∈ items, item.Readable .alone) :
    StandsFor ((Value.closure id kind parameters (.ofList items) scope).inspect names).toList
      (Definition.form ⟨name, kind, parameters, .ofList items⟩) := by
  have hhead : IsSymbolName (definer kind).name.toList := by cases kind <;> decide
  have htext : ((Value.closure id kind parameters (.ofList items) scope).inspect names).toList =
      '(' :: ((definer kind).name.toList ++ spaced (name.name.toList :: parameters.text.toList ::
        items.map fun item => (item.inspect names).toList) ++ [')']) := by
    rw [toList_inspect_closure, hname, head_named]
    simp [spaced]
  rw [htext]
  exact standsFor_spaced (standsFor_symbol hhead) (.cons (standsFor_symbol hreadable)
    (.cons (standsFor_parameters hsymbols) (standsFor_body names hbody)))

/-- Evaluating what the text is read as makes a closure that differs only in its id and its scope.
With a name, it is bound at the top level. -/
structure ReadsAgain (state : State) (names : ClosureNames) (id : Nat) (kind : ClosureKind)
    (parameters : Parameters) (items : List Value) (scope : Environment) : Prop where
  unnamed : names.get? id = none →
    ∃ datum,
      StandsFor ((Value.closure id kind parameters (.ofList items) scope).inspect names).toList
        datum ∧
      ∀ environment, ∃ made after,
        Gives environment datum state (.closure made kind parameters (.ofList items) environment)
          after ∧
        after.names.get? made = none
  named : ∀ name, names.get? id = some name → IsSymbolName name.name.toList →
    Resolves state .global [⟨"defn"⟩, ⟨"defmacro"⟩] →
      ∃ datum made after,
        StandsFor ((Value.closure id kind parameters (.ofList items) scope).inspect names).toList
          datum ∧
        Gives .global datum state (.closure made kind parameters (.ofList items) .global) after ∧
        after.names.get? made = some name ∧
        after.store.globals.get? name =
          some (.closure made kind parameters (.ofList items) .global)

/-- In every reachable state and in the midst of an evaluation, whatever the state was in which the
closure was made and printed. -/
theorem closure_readsAgain {seen : List Closure} {earlier state : State}
    (hreachable : Reachable seen earlier) (hgrows : earlier.store.GrowsInto state.store)
    (names : ClosureNames) (id : Nat) (kind : ClosureKind) (scope : Environment) {list : Value}
    (haccepted : Parameters.ofValue list = .ok parameters)
    (hsymbols : ∀ symbol ∈ parameters.symbols, IsSymbolName symbol.name.toList)
    (hitems : items ≠ []) (hbody : ∀ item ∈ items, item.Readable .alone) :
    ReadsAgain state names id kind parameters items scope := by
  obtain ⟨first, rest, rfl⟩ := List.exists_cons_of_ne_nil hitems
  have hspecial : ∀ form : SpecialForm, state.store.globals.contains form.symbol = true :=
    fun form => hgrows.globals (hreachable.contains_special form)
  constructor
  · intro hname
    refine ⟨_, standsFor_unnamed hname hsymbols hbody, fun environment => ?_⟩
    have hbound := Store.isSome_get?_of_globals (hspecial (makes kind)) environment
    exact ⟨_, _, gives_closure kind hbound (Parameters.ofValue_symbols haccepted),
      state.names.get?_push_next⟩
  · intro name hname hreadable hresolves
    have hsound : Definition.Sound ⟨name, kind, parameters, .ofList (first :: rest)⟩ :=
      ⟨Parameters.ofValue_symbols haccepted, first, rest, rfl⟩
    have hoffers : Offers state .global Definition.forms [definer kind] :=
      .atTop (fun form _ => hspecial form) fun key hkey => hresolves key (by
        rw [List.mem_singleton.mp hkey]
        cases kind <;> simp [definer])
    exact ⟨_, _, _, standsFor_named hname hreadable hsymbols hbody,
      Definition.gives_form hsound hoffers, state.names.get?_assign_push name,
      Frame.get?_insert_self _ _ _⟩

end

open scoped Pattern

/-- The text `(defmacro f (x & xs) 'x)`. -/
theorem closure_readsAgain_expander :
    let names : ClosureNames := ⟨#[some ⟨"f"⟩]⟩
    let parameters : Parameters := ⟨[⟨"x"⟩], some ⟨"xs"⟩⟩
    let items := [Value.ofList [.symbol Sugar.quote.symbol, .symbol ⟨"x"⟩]]
    ∃ seen state, Reachable seen state ∧ state.store.GrowsInto state.store ∧
      Parameters.ofValue (.ofList [.symbol ⟨"x"⟩, .symbol ⟨"&"⟩, .symbol ⟨"xs"⟩]) =
        .ok parameters ∧
      (∀ symbol ∈ parameters.symbols, IsSymbolName symbol.name.toList) ∧ items ≠ [] ∧
      (∀ item ∈ items, item.Readable .alone) ∧
      ReadsAgain state names 0 .expander parameters items .global ∧
      ∃ datum made after, StandsFor "(defmacro f (x & xs) 'x)".toList datum ∧
        Gives .global datum state (.closure made .expander parameters (.ofList items) .global)
          after ∧
        after.names.get? made = some ⟨"f"⟩ := by
  intro names parameters items
  have hnames : [⟨"defn"⟩, ⟨"defmacro"⟩] ⊆ described.map Definition.name ++ initialNames := by
    decide
  obtain ⟨seen, state, hreachable, hresolves⟩ := exists_reachable_resolves hnames
  have haccepted : Parameters.ofValue (.ofList [.symbol ⟨"x"⟩, .symbol ⟨"&"⟩, .symbol ⟨"xs"⟩]) =
      .ok parameters := rfl
  have hsymbols : ∀ symbol ∈ parameters.symbols, IsSymbolName symbol.name.toList := by decide
  have hitems : items ≠ [] := nofun
  have hbody : ∀ item ∈ items, item.Readable .alone := by decide
  have hagain := closure_readsAgain hreachable (.refl _) names 0 .expander .global haccepted
    hsymbols hitems hbody
  obtain ⟨datum, made, after, hreads, hgives, hname, _⟩ :=
    hagain.named ⟨"f"⟩ rfl (by decide) hresolves
  exact ⟨seen, state, hreachable, .refl _, haccepted, hsymbols, hitems, hbody, hagain, datum, made,
    after, hreads, hgives, hname⟩

end Library

end Lisplet
