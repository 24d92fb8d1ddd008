import Lisplet.Proofs.Evaluation.Calls
import Lisplet.Proofs.Evaluation.Reachable
import Lisplet.Regex.PatternEngine

namespace Lisplet

namespace Template

/-! A template as the program that builds it: lists are put together from the values of their
elements by calls of the primitives themselves. -/

def marked? (sugar : Sugar) : Value → Option Value
  | .cons (.symbol symbol) (.cons operand .emptyList) =>
      if symbol = sugar.symbol then some operand else none
  | _ => none

def argument (element expression : Value) : Value :=
  (marked? .splice element).getD (.ofList [.primitive .list, expression])

mutual

/-- Atoms and the empty list are quoted, an unquoted operand is evaluated in its place, and any other
list is what `concat` makes of its elements. -/
def desugar : Value → Value
  | .cons first rest =>
      match marked? .unquote (.cons first rest) with
      | some operand => operand
      | none => .ofList (.primitive .concat :: argument first (desugar first) :: arguments rest)
  | value => .ofList [.symbol SpecialForm.quote.symbol, value]

def arguments : Value → List Value
  | .cons first rest => argument first (desugar first) :: arguments rest
  | _ => []

end

/-! Templates in which every list is proper and every mark, also one around the whole template, has
one operand. What is unquoted may be anything. -/

def hasOneItem : Value → Bool
  | .cons _ .emptyList => true
  | _ => false

mutual

def isProper : Value → Bool
  | .cons first rest =>
      match mark? first with
      | some _ => hasOneItem rest
      | none => isProper first && areProper rest
  | _ => true

def areProper : Value → Bool
  | .cons first rest => isProper first && areProper rest
  | .emptyList => true
  | _ => false

end

end Template

namespace Template

open Eval Evaluator

variable {environment : Environment}

theorem mark?_eq_some {first : Value} {sugar : Sugar} (h : mark? first = some sugar) :
    first = .symbol sugar.symbol ∧ (sugar = .unquote ∨ sugar = .splice) := by
  unfold mark? at h
  split at h
  · split at h
    · rename_i hsymbol
      cases h
      exact ⟨congrArg Value.symbol hsymbol, .inl rfl⟩
    · split at h
      · rename_i hsymbol
        cases h
        exact ⟨congrArg Value.symbol hsymbol, .inr rfl⟩
      · cases h
  · cases h

theorem hasOneItem_eq_true {value : Value} (h : hasOneItem value = true) :
    ∃ item, value = .cons item .emptyList := by
  unfold hasOneItem at h
  split at h
  · exact ⟨_, rfl⟩
  · cases h

theorem exists_operand_of_isProper {first rest : Value} {sugar : Sugar}
    (hmark : mark? first = some sugar) (hproper : isProper (.cons first rest) = true) :
    ∃ operand, rest = .cons operand .emptyList := by
  simp only [isProper, hmark] at hproper
  exact hasOneItem_eq_true hproper

theorem marked?_eq_none {first rest : Value} (h : mark? first = none) {sugar : Sugar}
    (hsugar : mark? (.symbol sugar.symbol) = some sugar) :
    marked? sugar (.cons first rest) = none := by
  unfold marked?
  split
  · split
    · rename_i heq hsymbol
      cases heq
      rw [hsymbol, hsugar] at h
      cases h
    · rfl
  · rfl

/-! Each part of a template, and the part of the program that stands for it. -/

section Agreement

variable (environment)

variable [RegexEngine]

/-- What stands in the place of the template comes to what the argument for it comes to. -/
def BuildsItems (template : Value) : Prop :=
  ∀ (state after : State) (values : List Value), state.Quotes →
    (Eventually (fun fuel => element (evalAt fuel environment) template) state values after ↔
      ∃ value,
        Eventually (fun fuel => evalAt fuel environment (argument template (desugar template)))
          state value after ∧
        value.toList? = some values)

/-- The template comes to one value, that of the expression for it. -/
def BuildsValue (template : Value) : Prop :=
  ∀ (state after : State) (values : List Value), state.Quotes →
    (Eventually (fun fuel => element (evalAt fuel environment) template) state values after ↔
      ∃ value,
        Eventually (fun fuel => evalAt fuel environment (desugar template)) state value after ∧
        values = [value])

/-- The rest of a template comes to the items of all the arguments for it. -/
def BuildsRest (template : Value) : Prop :=
  ∀ (state after : State) (value : Value), state.Quotes →
    (Eventually (fun fuel => following (evalAt fuel environment) template) state value after ↔
      ∃ values items,
        Eventually (fun fuel => evalEach (evalAt fuel environment) (arguments template))
          state values after ∧
        joined? values = some items ∧ value = .ofList items)

end Agreement

section Steps

variable {first rest operand template : Value}

variable [RegexEngine]

theorem buildsItems_splice :
    BuildsItems environment (.ofList [.symbol Sugar.splice.symbol, operand]) := by
  intro state after values _
  refine (eventually_bind (steady_evalAt environment operand) fun value =>
    steady_const (ofOption (.spliceNotList value) value.toList?)).trans ?_
  refine exists_congr fun value => ?_
  constructor
  · rintro ⟨middle, hvalue, hlist⟩
    obtain ⟨hitems, rfl⟩ := eventually_ofOption.mp hlist
    exact ⟨hvalue, hitems⟩
  · rintro ⟨hvalue, hitems⟩
    exact ⟨after, hvalue, eventually_ofOption.mpr ⟨hitems, rfl⟩⟩

theorem BuildsValue.items (h : BuildsValue environment template)
    (hsplice : marked? .splice template = none) : BuildsItems environment template := by
  intro state after values hquotes
  have hargument : argument template (desugar template) =
      .ofList [.primitive .list, desugar template] := by rw [argument, hsplice]; rfl
  rw [h state after values hquotes, hargument]
  simp only [eventually_list_call]
  constructor
  · rintro ⟨value, hvalue, rfl⟩
    exact ⟨_, ⟨value, hvalue, rfl⟩, Value.toList?_ofList [value]⟩
  · rintro ⟨_, ⟨value, hvalue, rfl⟩, hitems⟩
    rw [Value.toList?_ofList] at hitems
    exact ⟨value, hvalue, (Option.some.inj hitems).symm⟩

theorem buildsValue_unquote :
    BuildsValue environment (.ofList [.symbol Sugar.unquote.symbol, operand]) :=
  fun _ _ _ _ => eventually_map (steady_evalAt environment operand)

theorem buildsValue_atom (hatom : template.isPair = false) :
    BuildsValue environment template := by
  intro state after values hquotes
  have helement : ∀ eval, element eval template = Pure.pure [template] := by
    cases template with
    | cons first rest => cases hatom
    | _ => exact fun _ => rfl
  have hquote : desugar template = .ofList [.symbol SpecialForm.quote.symbol, template] := by
    cases template with
    | cons first rest => cases hatom
    | _ => rfl
  simp only [helement, hquote, eventually_pure, eventually_quote hquotes]
  constructor
  · rintro ⟨rfl, rfl⟩
    exact ⟨template, ⟨rfl, rfl⟩, rfl⟩
  · rintro ⟨value, ⟨rfl, rfl⟩, rfl⟩
    exact ⟨rfl, rfl⟩

theorem steady_element_following (environment : Environment) (template : Value) :
    (Steady fun fuel => element (evalAt fuel environment) template) ∧
      Steady fun fuel => following (evalAt fuel environment) template :=
  ⟨fun _ _ hle => @Law.element fuelLaw _ _ ((fuelLaw_respects hle).eval environment) template,
    fun _ _ hle => @Law.following fuelLaw _ _ ((fuelLaw_respects hle).eval environment) template⟩

theorem buildsRest_emptyList : BuildsRest environment .emptyList := by
  intro state after value _
  refine eventually_pure.trans ?_
  constructor
  · rintro ⟨rfl, rfl⟩
    exact ⟨[], [], eventually_pure.mpr ⟨rfl, rfl⟩, rfl, rfl⟩
  · rintro ⟨values, items, hvalues, hitems, rfl⟩
    obtain ⟨rfl, rfl⟩ := eventually_pure.mp hvalues
    cases hitems
    exact ⟨rfl, rfl⟩

theorem buildsRest_cons (hfirst : BuildsItems environment first)
    (hrest : BuildsRest environment rest) : BuildsRest environment (.cons first rest) := by
  intro state after value hquotes
  have hsteady := (steady_element_following environment rest).2
  have hrun : Eventually (fun fuel => following (evalAt fuel environment) (.cons first rest))
      state value after ↔ ∃ front middle,
        Eventually (fun fuel => element (evalAt fuel environment) first) state front middle ∧
          ∃ back, Eventually (fun fuel => following (evalAt fuel environment) rest)
            middle back after ∧ value = .ofDotted front back := by
    refine (eventually_bind (steady_element_following environment first).1 fun front =>
      hsteady.map (Value.ofDotted front)).trans ?_
    simp only [eventually_map hsteady]
  rw [hrun]
  constructor
  · rintro ⟨front, middle, hfront, back, hback, rfl⟩
    obtain ⟨list, hlist, hitems⟩ := (hfirst state middle front hquotes).mp hfront
    have hmiddle := hlist.quotes hquotes
    obtain ⟨values, items, hvalues, hjoined, rfl⟩ := (hrest middle after back hmiddle).mp hback
    refine ⟨list :: values, front ++ items, ?_, ?_, ?_⟩
    · exact eventually_evalEach_cons.mpr ⟨list, middle, values, hlist, hvalues, rfl⟩
    · rw [joined?, hitems, hjoined]
      rfl
    · rw [Value.ofList, Value.ofList, Value.ofDotted_append]
  · rintro ⟨values, items, hvalues, hjoined, rfl⟩
    obtain ⟨list, middle, others, hlist, hothers, rfl⟩ := eventually_evalEach_cons.mp hvalues
    obtain ⟨front, hfront, hmap⟩ := Option.bind_eq_some_iff.mp hjoined
    obtain ⟨back, hback, rfl⟩ := Option.map_eq_some_iff.mp hmap
    have hmiddle := hlist.quotes hquotes
    refine ⟨front, middle, (hfirst state middle front hquotes).mpr ⟨list, hlist, hfront⟩,
      .ofList back, ?_, ?_⟩
    · exact (hrest middle after _ hmiddle).mpr ⟨others, back, hothers, hback, rfl⟩
    · rw [Value.ofList, Value.ofList, Value.ofDotted_append]

theorem BuildsRest.value (hmark : mark? first = none)
    (h : BuildsRest environment (.cons first rest)) :
    BuildsValue environment (.cons first rest) := by
  intro state after values hquotes
  have helement : ∀ eval, element eval (.cons first rest) =
      following eval (.cons first rest) >>= fun value => Pure.pure [value] :=
    fun eval => element_of_unmarked hmark eval rest
  have hdesugar : desugar (.cons first rest) =
      .ofList (.primitive .concat :: arguments (.cons first rest)) := by
    have hunquote : marked? .unquote (.cons first rest) = none := marked?_eq_none hmark rfl
    simp only [desugar, hunquote, arguments]
  simp only [helement, hdesugar]
  rw [eventually_map (steady_element_following environment _).2]
  refine exists_congr fun value => and_congr_left fun _ => ?_
  rw [h state after value hquotes, eventually_concat_call]

end Steps

section

variable [RegexEngine]

theorem builds (environment : Environment) (template : Value) :
    (isProper template = true → isSplice template = false → BuildsValue environment template) ∧
      (isProper template = true → BuildsItems environment template) ∧
      (areProper template = true → BuildsRest environment template) := by
  -- A list without a mark is built as the rest of a list is, so that case comes from the last part.
  induction template with
  | cons first rest ihFirst ihRest =>
      have hbuildsRest : areProper (.cons first rest) = true →
          BuildsRest environment (.cons first rest) := by
        intro hproper
        rw [areProper, Bool.and_eq_true] at hproper
        exact buildsRest_cons (ihFirst.2.1 hproper.1) (ihRest.2.2 hproper.2)
      cases hmark : mark? first with
      | none =>
          have hvalue : isProper (.cons first rest) = true →
              BuildsValue environment (.cons first rest) := by
            intro hproper
            simp only [isProper, hmark] at hproper
            exact (hbuildsRest hproper).value hmark
          refine ⟨fun hproper _ => hvalue hproper, fun hproper => ?_, hbuildsRest⟩
          exact (hvalue hproper).items (marked?_eq_none hmark rfl)
      | some sugar =>
          obtain ⟨rfl, hsugar⟩ := mark?_eq_some hmark
          rcases hsugar with rfl | rfl
          · refine ⟨fun hproper _ => ?_, fun hproper => ?_, hbuildsRest⟩
            · obtain ⟨operand, rfl⟩ := exists_operand_of_isProper hmark hproper
              exact buildsValue_unquote
            · obtain ⟨operand, rfl⟩ := exists_operand_of_isProper hmark hproper
              exact buildsValue_unquote.items rfl
          · refine ⟨fun _ hsplice => ?_, fun hproper => ?_, hbuildsRest⟩
            · cases hsplice
            · obtain ⟨operand, rfl⟩ := exists_operand_of_isProper hmark hproper
              exact buildsItems_splice
  | emptyList =>
      have hvalue : BuildsValue environment .emptyList := buildsValue_atom rfl
      exact ⟨fun _ _ => hvalue, fun _ => hvalue.items rfl, fun _ => buildsRest_emptyList⟩
  | _ =>
      refine ⟨fun _ _ => buildsValue_atom rfl, fun _ => (buildsValue_atom rfl).items rfl, ?_⟩
      intro hproper
      cases hproper

/-- In every reachable state, expanding a template and evaluating the program for it come to the
same: both succeed or neither does, with the same value and in the same state. -/
theorem expand_iff_evalAt_desugar {seen : List Closure} {state : State}
    (hreachable : Reachable seen state) (environment : Environment) {template : Value}
    (hproper : isProper template = true) (hsplice : isSplice template = false) (value : Value)
    (after : State) :
    (∃ fuel, expand (evalAt fuel environment) template state = .ok value after) ↔
      ∃ fuel, evalAt fuel environment (desugar template) state = .ok value after := by
  have hquotes : state.Quotes := hreachable.contains_special .quote
  have hbuilds := (builds environment template).1 hproper hsplice
  constructor
  · rintro ⟨fuel, hrun⟩
    cases helement : element (evalAt fuel environment) template state with
    | error halt middle => cases (bind_error helement).symm.trans hrun
    | ok values middle =>
        obtain ⟨item, hitem, rfl⟩ := (hbuilds state middle values hquotes).mp ⟨fuel, helement⟩
        have hlast := (bind_ok helement).symm.trans hrun
        rw [hsplice] at hlast
        cases hlast
        exact hitem
  · intro hvalue
    obtain ⟨fuel, helement⟩ := (hbuilds state after [value] hquotes).mpr ⟨value, hvalue, rfl⟩
    refine ⟨fuel, (bind_ok helement).trans ?_⟩
    rw [hsplice]
    rfl

end

open scoped Pattern

theorem expand_iff_evalAt_desugar_splice :
    ∃ fuel, evalAt fuel .global
      (desugar (.ofList [.int 1,
        .ofList [.symbol Sugar.unquote.symbol, .ofList [.symbol ⟨"quote"⟩, .symbol ⟨"x"⟩]],
        .ofList [.symbol Sugar.splice.symbol, .ofList [.symbol ⟨"quote"⟩, .ofList [.nil, .nil]]]]))
      (.initial .empty) =
        .ok (.ofList [.int 1, .symbol ⟨"x"⟩, .nil, .nil]) (.initial .empty) :=
  (expand_iff_evalAt_desugar (Reachable.initial .empty) .global rfl rfl _ _).mp ⟨3, rfl⟩

/-- It is not enough that the elements of a template are proper: a mark with two operands around the
whole is refused, while the program for it builds it as it builds any other list. -/
theorem expand_refuses_twoOperands :
    areProper (.ofList [.symbol Sugar.unquote.symbol, .int 1, .int 2]) = true ∧
      isSplice (.ofList [.symbol Sugar.unquote.symbol, .int 1, .int 2]) = false ∧
      (∃ fuel, evalAt fuel .global
        (desugar (.ofList [.symbol Sugar.unquote.symbol, .int 1, .int 2])) (.initial .empty) =
          .ok (.ofList [.symbol Sugar.unquote.symbol, .int 1, .int 2]) (.initial .empty)) ∧
      ∀ fuel, expand (evalAt fuel .global)
        (.ofList [.symbol Sugar.unquote.symbol, .int 1, .int 2]) (.initial .empty) =
          .error (.error (.unquoteOperands .unquote 2)) (.initial .empty) :=
  ⟨rfl, rfl, ⟨4, rfl⟩, fun _ => rfl⟩

end Template

end Lisplet
