import Lisplet.Proofs.Evaluation.Reachable
import Lisplet.Proofs.Evaluation.Stack
import Lisplet.Regex.PatternEngine

namespace Lisplet

/-! Forms by their heads. The names of the special forms are taken; whatever else a head may be, it
stands for its value. -/

namespace Evaluator

open Eval

variable {inner : Evaluator} {environment : Environment} {head operator : Value}

variable [RegexEngine]

theorem evalAt_cons (fuel : Nat) (environment : Environment) (head rest : Value) :
    evalAt (fuel + 1) environment (.cons head rest) =
      evalAt fuel environment head >>= fun operator =>
        ofOption .improperForm rest.toList? >>= fun operands =>
          applying head (applyForm (layers fuel) environment head operator operands) :=
  rfl

def namesForm? (head : Value) : Option SpecialForm :=
  head.symbol?.bind SpecialForm.ofSymbol?

omit [RegexEngine] in
theorem namesForm?_eq_some_iff {form : SpecialForm} :
    namesForm? head = some form ↔ head = .symbol form.symbol := by
  constructor
  · intro h
    obtain ⟨symbol, hsymbol, hform⟩ := Option.bind_eq_some_iff.mp h
    cases head with
    | symbol name =>
        cases hsymbol
        rw [SpecialForm.symbol_of_ofSymbol? hform]
    | _ => cases hsymbol
  · rintro rfl
    exact SpecialForm.ofSymbol?_symbol form

theorem applyForm_special (form : SpecialForm) (operator : Value) (operands : List Value) :
    applyForm inner environment (.symbol form.symbol) operator operands =
      evalSpecial inner environment form operands := by
  have hform : namesForm? (.symbol form.symbol) = some form := namesForm?_eq_some_iff.mpr rfl
  rw [namesForm?] at hform
  simp only [applyForm, hform]

theorem applyForm_expander (hhead : namesForm? head = none) (id : Nat) (parameters : Parameters)
    (body : Value) (scope : Environment) (operands : List Value) :
    applyForm inner environment head (.closure id .expander parameters body scope) operands =
      Closure.invoke inner.eval ⟨id, .expander, parameters, body, scope⟩ operands >>=
        inner.eval environment := by
  rw [namesForm?] at hhead
  simp only [applyForm, hhead]

theorem applyForm_special_value (hhead : namesForm? head = none) (form : SpecialForm)
    (operands : List Value) :
    applyForm inner environment head (.special form) operands =
      evalEach (inner.eval environment) operands >>= fun _ =>
        Eval.fail (.specialFormAsValue form) := by
  rw [namesForm?] at hhead
  simp only [applyForm, hhead, applyValue]

/-- What special forms are in a state and an environment: each is known by its name, which always
has a value and never stands for it, and by nothing else. -/
structure FormsFixed (state : State) (environment : Environment) : Prop where
  bound : ∀ form : SpecialForm, ∃ operator,
    lookup environment form.symbol state = .ok operator state
  executed : ∀ (form : SpecialForm) (operands : List Value) (fuel : Nat),
    evalAt (fuel + 2) environment (.ofList (.symbol form.symbol :: operands)) state =
      applying (.symbol form.symbol)
        (evalSpecial (layers (fuel + 1)) environment form operands) state
  refused : ∀ {head : Value}, namesForm? head = none →
    ∀ {form : SpecialForm} {operands arguments : List Value} {fuel : Nat} {middle after : State},
      evalAt fuel environment head state = .ok (.special form) middle →
      evalEach (evalAt fuel environment) operands middle = .ok arguments after →
        evalAt (fuel + 1) environment (.ofList (head :: operands)) state =
          .error (.error (.specialFormAsValue form)) { after with stack := head :: after.stack }

omit [RegexEngine] in
theorem lookup_special {state : State}
    (h : ∀ form : SpecialForm, state.store.globals.contains form.symbol = true)
    (environment : Environment) (form : SpecialForm) :
    ∃ operator, lookup environment form.symbol state = .ok operator state := by
  have hbound : (state.store.get? environment form.symbol).isSome = true := by
    rw [Store.isSome_get?, Store.contains, h form, Bool.or_true]
  obtain ⟨operator, hoperator⟩ := Option.isSome_iff_exists.mp hbound
  refine ⟨operator, ?_⟩
  change ofOption _ (state.store.get? environment form.symbol) state = _
  rw [hoperator]
  rfl

theorem evalAt_of_head {fuel : Nat} {state middle : State}
    (hhead : evalAt fuel environment head state = .ok operator middle) (operands : List Value) :
    evalAt (fuel + 1) environment (.ofList (head :: operands)) state =
      applying head (applyForm (layers fuel) environment head operator operands) middle := by
  change evalAt (fuel + 1) environment (.cons head (.ofList operands)) state = _
  rw [evalAt_cons, bind_ok hhead, Value.toList?_ofList]
  rfl

theorem evalAt_special {state : State}
    (h : ∀ form : SpecialForm, state.store.globals.contains form.symbol = true)
    (environment : Environment) (form : SpecialForm) (operands : List Value) (fuel : Nat) :
    evalAt (fuel + 2) environment (.ofList (.symbol form.symbol :: operands)) state =
      applying (.symbol form.symbol)
        (evalSpecial (layers (fuel + 1)) environment form operands) state := by
  obtain ⟨operator, hoperator⟩ := lookup_special h environment form
  have hhead : evalAt (fuel + 1) environment (.symbol form.symbol) state = .ok operator state :=
    hoperator
  rw [evalAt_of_head hhead, applyForm_special]

theorem evalAt_special_value {fuel : Nat} {state middle after : State} {form : SpecialForm}
    {operands arguments : List Value} (hname : namesForm? head = none)
    (hhead : evalAt fuel environment head state = .ok (.special form) middle)
    (hoperands : evalEach (evalAt fuel environment) operands middle = .ok arguments after) :
    evalAt (fuel + 1) environment (.ofList (head :: operands)) state =
      .error (.error (.specialFormAsValue form)) { after with stack := head :: after.stack } := by
  have hlayers := stackLaw_respects fuel
  have heach : Disciplined Applied (evalEach (evalAt fuel environment) operands) :=
    @Law.evalEach stackLaw _ _ (hlayers.eval environment) operands
  have hbody : Disciplined Applied
      (applyForm (layers fuel) environment head (.special form) operands) :=
    @Law.applyForm stackLaw _ _ _ hlayers environment head (.special form) operands
  have hfails : applyForm (layers fuel) environment head (.special form) operands middle =
      .error (.error (.specialFormAsValue form)) after := by
    rw [applyForm_special_value hname]
    exact bind_ok hoperands
  obtain ⟨added, hstack, hmarked⟩ := hbody.applying_of_error hfails head
  rw [evalAt_of_head hhead, hmarked]
  -- The operands left nothing on the stack, and neither does the refusal.
  have hafter := heach.stack_eq hoperands
  obtain rfl : added = [] := List.self_eq_append_left.mp (hafter.symm.trans hstack)
  rw [hafter]
  rfl

end Evaluator

section

variable [RegexEngine]

/-- In every reachable state, and in every state whose store has grown out of its store, as it does
in the midst of an evaluation. -/
theorem Reachable.forms_fixed {seen : List Closure} {state later : State}
    (hreachable : Reachable seen state) (hlater : state.store.GrowsInto later.store)
    (environment : Environment) : Evaluator.FormsFixed later environment := by
  have hbound : ∀ form : SpecialForm, later.store.globals.contains form.symbol = true :=
    fun form => hlater.globals (hreachable.contains_special form)
  exact ⟨Evaluator.lookup_special hbound environment, Evaluator.evalAt_special hbound environment,
    fun hname => Evaluator.evalAt_special_value hname⟩

end

open scoped Pattern

/-- With the name `if` bound to a number and the name `unless` to the special form. -/
theorem Reachable.forms_fixed_rebound :
    let store := (State.initial .empty).store.define ⟨"if"⟩ (.int 5)
    let state := { State.initial .empty with
      store := store.define ⟨"unless"⟩ (.special .branch) }
    Evaluator.evalAt 3 .global (.ofList [.symbol ⟨"if"⟩, .bool true, .int 1]) state =
        .ok (.int 1) state ∧
      Evaluator.evalAt 2 .global (.ofList [.symbol ⟨"unless"⟩, .nil, .int 1]) state =
        .error (.error (.specialFormAsValue .branch))
          { state with stack := [.symbol ⟨"unless"⟩] } := by
  have hflat : ∀ {value : Value}, value.closures = [] → value.InSight [] := by
    intro value hvalue
    simp [Value.InSight, hvalue]
  have hnumber : Value.InSight [] (.int 5) := hflat rfl
  have hform : Value.InSight [] (.special .branch) := hflat rfl
  have hreachable := ((Reachable.initial .empty).define ⟨"if"⟩ hnumber).define ⟨"unless"⟩ hform
  have hfixed := hreachable.forms_fixed (.refl _) .global
  exact ⟨(hfixed.executed .branch [.bool true, .int 1] 1).trans rfl, hfixed.refused rfl rfl rfl⟩

end Lisplet
