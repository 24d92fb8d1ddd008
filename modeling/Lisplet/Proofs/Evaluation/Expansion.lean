import Lisplet.Proofs.Evaluation.Forms
import Lisplet.Proofs.Evaluation.Fuel
import Lisplet.Regex.PatternEngine

namespace Lisplet

/-! Expanding a form by one step and then evaluating it. Which forms call an expander is decided
twice, by the value of the head and by a look at the global frame, and both come to the same. -/

namespace Eval

/-- The same value in the same state, or the same failure in states that differ in the stack
alone. -/
inductive SameButStack : EStateM.Result Halt State α → EStateM.Result Halt State α → Prop
  | ok (value : α) (after : State) : SameButStack (.ok value after) (.ok value after)
  | error (halt : Halt) (after : State) (stack : List Value) :
      SameButStack (.error halt { after with stack }) (.error halt after)

theorem SameButStack.refl (ended : EStateM.Result Halt State α) : SameButStack ended ended := by
  cases ended with
  | ok value after => exact .ok value after
  | error halt after => exact .error halt after after.stack

theorem bind_congr_at {first other : Eval α} {state : State} (h : first state = other state)
    (next : α → Eval β) : (first >>= next) state = (other >>= next) state := by
  change EStateM.bind first next state = EStateM.bind other next state
  simp only [EStateM.bind, h]

/-- It did not go deeper than was allowed. -/
def Ends (ended : EStateM.Result Halt State α) : Prop :=
  ∀ after, ended ≠ .error .outOfFuel after

theorem Steady.eq_of_ends {family : Nat → Eval α} (h : Steady family) {fuel fuel' : Nat}
    (hle : fuel ≤ fuel') {state : State} (hends : Ends (family fuel state)) :
    family fuel' state = family fuel state := by
  rcases h fuel fuel' hle state with ⟨after, hdeeper⟩ | hsame
  · exact absurd hdeeper (hends after)
  · exact hsame

/-- With as many layers as either needs, both end in the same way, or neither ends. -/
structure EndTogether (family other : Nat → Eval α) (state : State) : Prop where
  forth : ∀ fuel, Ends (family fuel state) →
    ∃ fuel', SameButStack (family fuel state) (other fuel' state)
  back : ∀ fuel, Ends (other fuel state) →
    ∃ fuel', SameButStack (family fuel' state) (other fuel state)

theorem sameButStack_applying [RegexEngine] (head : Value) {body : Eval Value}
    (hbody : Disciplined Applied body) (state : State) :
    SameButStack (applying head body state) (body state) := by
  cases hend : body state with
  | ok value after =>
      rw [hbody.applying_eq_ok_iff.mpr hend]
      exact .ok value after
  | error halt after =>
      obtain ⟨added, _, hmarked⟩ := hbody.applying_of_error hend head
      rw [hmarked]
      exact .error halt after _

end Eval

namespace Evaluator

open Eval

theorem expandOnce_of_none {state : State} {form : Value} (h : expander? state form = none)
    (inner : Evaluator) : expandOnce inner form state = .ok form state := by
  have hget : (get : Eval State) state = .ok state state := rfl
  rw [expandOnce, bind_ok hget, h]
  cases form <;> rfl

theorem expandOnce_of_some {state : State} {head rest : Value} {closure : Closure}
    (h : expander? state (.cons head rest) = some closure) (inner : Evaluator) :
    expandOnce inner (.cons head rest) state =
      (ofOption .improperForm rest.toList? >>= closure.invoke inner.eval) state := by
  have hget : (get : Eval State) state = .ok state state := rfl
  rw [expandOnce, bind_ok hget, h]

theorem eq_ofClosure {value : Value} {closure : Closure} (h : value.closure? = some closure) :
    value = .ofClosure closure := by
  cases value with
  | closure id kind parameters body scope =>
      cases h
      rfl
  | _ => cases h

section

variable [RegexEngine]

def evalExpanded (form : Value) (fuel : Nat) : Eval Value :=
  expandOnce (layers fuel) form >>= evalAt fuel .global

theorem steady_evalExpanded (form : Value) : Steady (evalExpanded form) :=
  fun _ _ hle => .bind (@Law.expandOnce fuelLaw _ _ _ (fuelLaw_respects hle) form) fun expansion _ =>
    steady_evalAt .global expansion _ _ hle

theorem evalAt_head_of_expander? {state : State} {head rest : Value} {closure : Closure}
    (h : expander? state (.cons head rest) = some closure) (fuel : Nat) :
    closure.kind = .expander ∧
      evalAt (fuel + 1) .global head state = .ok (.ofClosure closure) state := by
  obtain ⟨hclosure, hkind⟩ := Option.filter_eq_some_iff.mp h
  refine ⟨of_decide_eq_true hkind, ?_⟩
  have hvalue := eq_ofClosure hclosure
  cases head with
  | symbol symbol =>
      change (state.store.globals.get? symbol).getD .nil = .ofClosure closure at hvalue
      change ofOption _ ((none : Option Value).or (state.store.globals.get? symbol)) state = _
      cases hbound : state.store.globals.get? symbol with
      | none =>
          rw [hbound] at hvalue
          cases hvalue
      | some value =>
          rw [hbound] at hvalue
          cases hvalue
          rfl
  | closure id kind parameters body scope =>
      cases hvalue
      rfl
  | _ => cases hvalue

theorem sameButStack_evalExpanded {state : State} {head rest : Value} {closure : Closure}
    (hhead : namesForm? head = none) (h : expander? state (.cons head rest) = some closure)
    (fuel : Nat) :
    SameButStack (evalAt (fuel + 2) .global (.cons head rest) state)
      (evalExpanded (.cons head rest) (fuel + 1) state) := by
  obtain ⟨hkind, hoperator⟩ := evalAt_head_of_expander? h fuel
  obtain ⟨id, kind, parameters, body, scope⟩ := closure
  obtain rfl : kind = .expander := hkind
  have hexpanded := bind_congr_at (expandOnce_of_some h (layers (fuel + 1)))
    (evalAt (fuel + 1) .global)
  rw [evalAt_cons, bind_ok hoperator, evalExpanded, hexpanded]
  cases hrest : rest.toList? with
  | none => exact .refl _
  | some operands =>
      have hbody := @Law.applyForm stackLaw _ _ _ (stackLaw_respects (fuel + 1)) .global head
        (.closure id .expander parameters body scope) operands
      change SameButStack _ ((Closure.invoke (layers (fuel + 1)).eval
        ⟨id, .expander, parameters, body, scope⟩ operands >>=
          (layers (fuel + 1)).eval .global) state)
      rw [← applyForm_expander hhead]
      exact sameButStack_applying head hbody state

/-- In every state, a form that is not a special form and what one step of expansion makes of it
come to the same value or failure, and only what a failure leaves on the stack may differ. -/
theorem expansion_endTogether {form : Value}
    (hform : ∀ head rest, form = .cons head rest → namesForm? head = none) (state : State) :
    EndTogether (fun fuel => evalAt fuel .global form) (evalExpanded form) state := by
  cases hexpander : expander? state form with
  | none =>
      have hsame : ∀ fuel, evalExpanded form fuel state = evalAt fuel .global form state :=
        fun fuel => bind_ok (expandOnce_of_none hexpander (layers fuel))
      refine ⟨fun fuel _ => ⟨fuel, ?_⟩, fun fuel _ => ⟨fuel, ?_⟩⟩
      all_goals
        rw [hsame]
        exact .refl _
  | some closure =>
      cases form with
      | cons head rest =>
          have hagree := sameButStack_evalExpanded (hform head rest rfl) hexpander
          refine ⟨fun fuel hends => ⟨fuel + 1, ?_⟩, fun fuel hends => ⟨fuel + 2, ?_⟩⟩
          · have hdeeper := (steady_evalAt .global (.cons head rest)).eq_of_ends
              (Nat.le_add_right fuel 2) hends
            rw [← hdeeper]
            exact hagree fuel
          · have hdeeper := (steady_evalExpanded (.cons head rest)).eq_of_ends
              (Nat.le_add_right fuel 1) hends
            rw [← hdeeper]
            exact hagree fuel
      | _ => cases hexpander

end

open scoped Pattern in
theorem expansion_endTogether_operand :
    let expander := Value.closure 0 .expander ⟨[⟨"x"⟩], none⟩ (.ofList [.symbol ⟨"x"⟩]) .global
    let state := { State.initial .empty with
      store := (State.initial .empty).store.define ⟨"m"⟩ expander }
    let form := Value.ofList [.symbol ⟨"m"⟩, .int 1]
    (∀ head rest, form = .cons head rest → namesForm? head = none) ∧
      ∃ fuel after, evalAt 4 .global form state = .ok (.int 1) after ∧
        evalExpanded form fuel state = .ok (.int 1) after := by
  intro expander state form
  have hform : ∀ head rest, form = .cons head rest → namesForm? head = none := by
    intro head rest hcons
    change Value.cons (.symbol ⟨"m"⟩) (.ofList [.int 1]) = .cons head rest at hcons
    cases hcons
    decide
  have hvalue : evalAt 4 .global form state =
    .ok (.int 1) (final (evalAt 4 .global form) state) := rfl
  have hends : Ends (evalAt 4 .global form state) := by
    rw [hvalue]
    exact fun after => nofun
  obtain ⟨fuel, hsame⟩ := (expansion_endTogether hform state).forth 4 hends
  refine ⟨hform, fuel, _, hvalue, ?_⟩
  generalize evalExpanded form fuel state = ended at hsame
  rw [hvalue] at hsame
  cases hsame
  rfl

/-! Special forms are not told apart by expansion: it goes by what their names are bound to. -/

theorem expander?_special {state : State} {form : SpecialForm} {closure : Closure}
    (rest : Value) :
    expander? state (.cons (.symbol form.symbol) rest) = some closure ↔
      state.store.globals.get? form.symbol = some (.ofClosure closure) ∧
        closure.isExpander = true := by
  have hlook : expander? state (.cons (.symbol form.symbol) rest) =
      ((state.store.globals.get? form.symbol).getD .nil).closure?.filter Closure.isExpander := rfl
  rw [hlook, Option.filter_eq_some_iff]
  refine and_congr_left fun _ => ?_
  cases state.store.globals.get? form.symbol with
  | none => exact ⟨nofun, nofun⟩
  | some value =>
      rw [Option.getD_some, Option.some_inj]
      constructor
      · exact eq_ofClosure
      · rintro rfl
        exact Value.closure?_ofClosure closure

end Evaluator

section

variable [RegexEngine]

/-- What evaluation and expansion do to the forms with one special name. -/
structure SpecialExpansion (state : State) (form : SpecialForm) : Prop where
  executed : ∀ (environment : Environment) (operands : List Value) (fuel : Nat),
    Evaluator.evalAt (fuel + 2) environment (.ofList (.symbol form.symbol :: operands)) state =
      Eval.applying (.symbol form.symbol)
        (Evaluator.evalSpecial (Evaluator.layers (fuel + 1)) environment form operands) state
  /-- All such forms stay as they are just if the name is bound to no expander. -/
  kept_iff : (∀ (rest : Value) (fuel : Nat),
      Evaluator.expandOnce (Evaluator.layers fuel) (.cons (.symbol form.symbol) rest) state =
        .ok (.cons (.symbol form.symbol) rest) state) ↔
    ∀ closure, state.store.globals.get? form.symbol = some (.ofClosure closure) →
      closure.isExpander = false
  expanded : ∀ {closure : Closure},
    state.store.globals.get? form.symbol = some (.ofClosure closure) → closure.isExpander = true →
      ∀ (rest : Value) (fuel : Nat),
        Evaluator.expandOnce (Evaluator.layers fuel) (.cons (.symbol form.symbol) rest) state =
          (Eval.ofOption .improperForm rest.toList? >>=
            closure.invoke (Evaluator.layers fuel).eval) state

theorem Reachable.specialExpansion {seen : List Closure} {state : State}
    (hreachable : Reachable seen state) (form : SpecialForm) : SpecialExpansion state form := by
  have hexpanded : ∀ {closure : Closure},
      state.store.globals.get? form.symbol = some (.ofClosure closure) →
      closure.isExpander = true → ∀ (rest : Value) (fuel : Nat),
        Evaluator.expandOnce (Evaluator.layers fuel) (.cons (.symbol form.symbol) rest) state =
          (Eval.ofOption .improperForm rest.toList? >>=
            closure.invoke (Evaluator.layers fuel).eval) state := by
    intro closure hbound hexpander rest fuel
    have hcalls := (Evaluator.expander?_special rest).mpr ⟨hbound, hexpander⟩
    exact Evaluator.expandOnce_of_some hcalls (Evaluator.layers fuel)
  refine ⟨fun environment operands fuel => ?_, ?_, hexpanded⟩
  · exact Evaluator.evalAt_special hreachable.contains_special environment form operands fuel
  constructor
  · intro hkept closure hbound
    cases hexpander : closure.isExpander with
    | false => rfl
    | true =>
        -- Without a list of operands the expander cannot be called at all.
        have hfails := hexpanded hbound hexpander .nil 0
        rw [hkept .nil 0] at hfails
        cases hfails
  · intro hnone rest fuel
    apply Evaluator.expandOnce_of_none
    cases hcalls : Evaluator.expander? state (.cons (.symbol form.symbol) rest) with
    | none => rfl
    | some closure =>
        obtain ⟨hbound, hexpander⟩ := (Evaluator.expander?_special rest).mp hcalls
        rw [hnone closure hbound] at hexpander
        cases hexpander

end

open scoped Pattern

theorem Reachable.specialExpansion_number :
    let state := { State.initial .empty with
      store := (State.initial .empty).store.define ⟨"if"⟩ (.int 5) }
    let form := Value.ofList [.symbol ⟨"if"⟩, .bool true, .int 1]
    Reachable [] state ∧ SpecialExpansion state .branch ∧
      Evaluator.expandOnce (Evaluator.layers 0) form state = .ok form state := by
  intro state form
  have hnumber : Value.InSight [] (.int 5) := fun _ hclosure => nomatch hclosure
  have hreachable : Reachable [] state := (Reachable.initial .empty).define ⟨"if"⟩ hnumber
  have hexpansion := hreachable.specialExpansion .branch
  have hbound : state.store.globals.get? ⟨"if"⟩ = some (.int 5) :=
    Frame.get?_insert_self _ _ _
  refine ⟨hreachable, hexpansion, hexpansion.kept_iff.mpr ?_ (.ofList [.bool true, .int 1]) 0⟩
  intro closure hclosure
  cases hbound.symm.trans hclosure

/-- Where `if` was defined as an expander that always gives 7, `(if true 1 2)` is still evaluated
to 1, but it expands to 7. -/
theorem Reachable.special_expands :
    let definition := Value.ofList [.symbol ⟨"def"⟩, .symbol ⟨"if"⟩,
      .ofList [.symbol ⟨"macro"⟩, .ofList [.symbol ⟨"&"⟩, .symbol ⟨"forms"⟩], .int 7]]
    let state := Eval.final (Request.run 4 (.eval .global definition)) (State.initial .empty)
    let form := Value.ofList [.symbol ⟨"if"⟩, .bool true, .int 1, .int 2]
    (∃ seen, Reachable seen state) ∧
      Evaluator.evalAt 2 .global form state = .ok (.int 1) state ∧
      ∃ after, Evaluator.expandOnce (Evaluator.layers 1) form state = .ok (.int 7) after := by
  intro definition state form
  have hrequest : (Request.eval .global definition).InSight [] :=
    ⟨.inl rfl, fun _ hclosure => nomatch hclosure⟩
  have hreachable := (Reachable.initial .empty).request 4 hrequest
  exact ⟨⟨_, hreachable⟩, rfl, _, rfl⟩

end Lisplet
