import Lisplet.Proofs.Evaluation.Together

namespace Lisplet

/-! What a computation comes to in the end: a value, in a state of which something is known, or a
failure. The rules follow both at once. -/

namespace Eval

def Settles (family : Nat → Eval α) (state : State) (outcome : Except Error α)
    (ends : State → Prop) : Prop :=
  match outcome with
  | .ok value => ∃ after, Eventually family state value after ∧ ends after
  | .error error => ∃ fuel after, family fuel state = .error (.error error) after

theorem AgreesUnlessDeeper.error {computation deeper : Eval α}
    (h : AgreesUnlessDeeper computation deeper) {state after : State} {error : Error}
    (hrun : computation state = .error (.error error) after) :
    deeper state = .error (.error error) after := by
  rcases h state with ⟨_, hdeeper⟩ | hsame
  · rw [hrun] at hdeeper
    cases hdeeper
  · exact hsame.trans hrun

variable {family other : Nat → Eval α} {state middle after : State} {outcome : Except Error α}
  {ends more : State → Prop}

namespace Settles

theorem of_eventually {value : α} (h : Eventually family state value after) (hends : ends after) :
    Settles family state (.ok value) ends :=
  ⟨after, h, hends⟩

theorem mono (h : Settles family state outcome ends) (hends : ∀ after, ends after → more after) :
    Settles family state outcome more := by
  cases outcome with
  | ok value => exact h.imp fun after hafter => ⟨hafter.1, hends after hafter.2⟩
  | error error => exact h

theorem add (hsteady : Steady family) (count : Nat) (h : Settles family state outcome ends) :
    Settles (fun fuel => family (fuel + count)) state outcome ends := by
  cases outcome with
  | ok value =>
      exact h.imp fun after hafter => ⟨(eventually_add hsteady count).mpr hafter.1, hafter.2⟩
  | error error =>
      obtain ⟨fuel, after, hrun⟩ := h
      exact ⟨fuel, after, (hsteady _ _ (Nat.le_add_right fuel count)).error hrun⟩

theorem afterwards {next : Nat → α → Eval β} {value : α} {result : Except Error β}
    (hfamily : Steady family) (hnext : Steady fun fuel => next fuel value)
    (hfirst : Eventually family state value middle)
    (h : Settles (fun fuel => next fuel value) middle result more) :
    Settles (fun fuel => family fuel >>= next fuel) state result more := by
  obtain ⟨fuel, hrun⟩ := hfirst
  cases result with
  | ok last =>
      obtain ⟨after, ⟨fuel', hlast⟩, hafter⟩ := h
      have hdeep := (hfamily _ _ (Nat.le_max_left fuel fuel')).ok hrun
      have hdeeper := (hnext _ _ (Nat.le_max_right fuel fuel')).ok hlast
      exact ⟨after, ⟨max fuel fuel', (bind_ok hdeep).trans hdeeper⟩, hafter⟩
  | error error =>
      obtain ⟨fuel', after, hlast⟩ := h
      have hdeep := (hfamily _ _ (Nat.le_max_left fuel fuel')).ok hrun
      have hdeeper := (hnext _ _ (Nat.le_max_right fuel fuel')).error hlast
      exact ⟨max fuel fuel', after, (bind_ok hdeep).trans hdeeper⟩

theorem bind {next : Nat → α → Eval β} {result : α → Except Error β} (hfamily : Steady family)
    (hnext : ∀ value, Steady fun fuel => next fuel value)
    (h : Settles family state outcome ends)
    (hlast : ∀ value after, outcome = .ok value → ends after →
      Settles (fun fuel => next fuel value) after (result value) more) :
    Settles (fun fuel => family fuel >>= next fuel) state (outcome >>= result) more := by
  cases outcome with
  | error error =>
      obtain ⟨fuel, after, hrun⟩ := h
      exact ⟨fuel, after, bind_error hrun⟩
  | ok value =>
      obtain ⟨middle, hvalue, hmiddle⟩ := h
      exact .afterwards hfamily (hnext value) hvalue (hlast value middle rfl hmiddle)

theorem map (hfamily : Steady family) (h : Settles family state outcome ends) (f : α → β) :
    Settles (fun fuel => family fuel >>= fun value => pure (f value)) state (outcome.map f)
      ends := by
  cases outcome with
  | ok value =>
      exact h.imp fun after hafter =>
        ⟨(eventually_map hfamily).mpr ⟨value, hafter.1, rfl⟩, hafter.2⟩
  | error error =>
      obtain ⟨fuel, after, hrun⟩ := h
      exact ⟨fuel, after, bind_error hrun⟩

end Settles

theorem EndTogether.settles (h : EndTogether family other state)
    (hother : Settles other state outcome ends) : Settles family state outcome ends := by
  cases outcome with
  | ok value => exact hother.imp fun after hafter => ⟨h.eventually hafter.1, hafter.2⟩
  | error error =>
      obtain ⟨fuel, after, hrun⟩ := hother
      have hends : Ends (other fuel state) := by
        rw [hrun]
        intro last hlast
        cases hlast
      obtain ⟨fuel', hsame⟩ := h.back fuel hends
      rw [hrun] at hsame
      generalize hfamily : family fuel' state = ended at hsame
      cases hsame with
      | error _ _ stack => exact ⟨fuel', _, hfamily⟩

end Eval

namespace Evaluator

open Eval

variable {environment : Environment} {state middle after : State} {operator value : Value}
  {operands arguments values : List Value} {outcome : Except Error Value} {ends more : State → Prop}

variable [RegexEngine]

theorem settles_each_before {expression : Value} {expressions : List Value}
    {outcome : Except Error β} {arguments : β → List Value}
    (hfirst : Gives environment expression state value middle)
    (h : Settles (fun fuel => evalEach (evalAt fuel environment) expressions) middle
      (outcome.map arguments) ends) :
    Settles (fun fuel => evalEach (evalAt fuel environment) (expression :: expressions)) state
      (outcome.map fun result => value :: arguments result) ends := by
  have hexpressions := steady_evalEach environment expressions
  have hall : Settles
      (fun fuel => evalEach (evalAt fuel environment) (expression :: expressions)) state
      ((outcome.map arguments).map (value :: ·)) ends :=
    .afterwards (steady_evalAt environment expression) (hexpressions.map (value :: ·)) hfirst
      (h.map hexpressions (value :: ·))
  cases outcome <;> exact hall

theorem settles_each_behind {expression : Value} {expressions : List Value}
    (h : Settles (fun fuel => evalAt fuel environment expression) state outcome ends)
    (hrest : ∀ after, ends after → GivesEach environment expressions after values after) :
    Settles (fun fuel => evalEach (evalAt fuel environment) (expression :: expressions)) state
      (outcome.map (· :: values)) ends := by
  have hexpressions := steady_evalEach environment expressions
  have hall : Settles
      (fun fuel => evalEach (evalAt fuel environment) (expression :: expressions)) state
      (outcome >>= fun value => .ok (value :: values)) ends := by
    refine h.bind (steady_evalAt environment expression)
      (fun value => hexpressions.map (value :: ·)) fun value after _ hends => ?_
    exact .of_eventually ((eventually_map hexpressions).mpr ⟨values, hrest after hends, rfl⟩) hends
  cases outcome <;> exact hall

theorem endTogether_call {name : Symbol} (hname : namesForm? (.symbol name) = none)
    (hbound : state.store.get? environment name = some operator)
    (hfunction : operator.isFunction = true) (operands : List Value) :
    EndTogether (fun fuel => evalAt fuel environment (.ofList (.symbol name :: operands)))
      (fun fuel => evalEach (evalAt fuel environment) operands >>= fun arguments =>
        applyAt (fuel + 1) operator arguments) state := by
  have hcall : ∀ arguments, Steady fun fuel => applyAt (fuel + 1) operator arguments :=
    fun arguments _ _ hle => steady_applyAt operator arguments _ _ (Nat.succ_le_succ hle)
  refine .of_shift (steady_evalAt environment _)
    ((steady_evalEach environment operands).bind hcall) 2 1 fun fuel => ?_
  have hsame := sameButStack_of_head (evalAt_symbol hbound fuel) operands
  rw [applyForm_function hname hfunction] at hsame
  exact hsame

theorem settles_call {name : Symbol} (hname : namesForm? (.symbol name) = none)
    (hbound : state.store.get? environment name = some operator)
    (hfunction : operator.isFunction = true) {outcome : Except Error β}
    {arguments : β → List Value} {result : β → Except Error Value}
    (hoperands : Settles (fun fuel => evalEach (evalAt fuel environment) operands) state
      (outcome.map arguments) ends)
    (hcall : ∀ value after, outcome = .ok value → ends after →
      Settles (fun fuel => applyAt fuel operator (arguments value)) after (result value) more) :
    Settles (fun fuel => evalAt fuel environment (.ofList (.symbol name :: operands))) state
      (outcome >>= result) more := by
  have hcalls : ∀ arguments, Steady fun fuel => applyAt (fuel + 1) operator arguments :=
    fun arguments _ _ hle => steady_applyAt operator arguments _ _ (Nat.succ_le_succ hle)
  refine (endTogether_call hname hbound hfunction operands).settles ?_
  cases outcome with
  | error error =>
      obtain ⟨fuel, after, hrun⟩ := hoperands
      exact ⟨fuel, after, bind_error hrun⟩
  | ok value =>
      obtain ⟨middle, hvalues, hends⟩ := hoperands
      exact .afterwards (steady_evalEach environment operands) (hcalls _) hvalues
        ((hcall value middle rfl hends).add (steady_applyAt operator _) 1)

theorem settles_call_values {name : Symbol} (hname : namesForm? (.symbol name) = none)
    (hbound : state.store.get? environment name = some operator)
    (hfunction : operator.isFunction = true)
    (hoperands : GivesEach environment operands state arguments middle)
    (hcall : Settles (fun fuel => applyAt fuel operator arguments) middle outcome ends) :
    Settles (fun fuel => evalAt fuel environment (.ofList (.symbol name :: operands))) state
      outcome ends := by
  have hvalues : Settles (fun fuel => evalEach (evalAt fuel environment) operands) state
      ((Except.ok () : Except Error Unit).map fun _ => arguments) (· = middle) :=
    .of_eventually hoperands rfl
  exact settles_call hname hbound hfunction hvalues fun _ _ _ hafter => hafter ▸ hcall

theorem settles_branch {condition consequence alternative result : Value}
    (hbound : (state.store.get? environment SpecialForm.branch.symbol).isSome = true)
    (hcondition : Gives environment condition state result middle)
    (h : Settles
      (fun fuel => evalAt fuel environment (if result.truthy then consequence else alternative))
      middle outcome ends) :
    Settles (fun fuel => evalAt fuel environment
      (.ofList [.symbol SpecialForm.branch.symbol, condition, consequence, alternative]))
      state outcome ends := by
  refine (endTogether_branch hbound condition consequence alternative).settles ?_
  refine .afterwards (steady_evalAt environment condition)
    ((steady_evalAt environment consequence).ite (steady_evalAt environment alternative) _)
    hcondition ?_
  cases htruthy : result.truthy with
  | true => simpa only [htruthy, if_true] using h
  | false => simpa only [htruthy, Bool.false_eq_true, if_false] using h

omit [RegexEngine] in
theorem receiver_symbol {name : Symbol} (h : state.store.get? environment name = some value)
    (inner : Evaluator) : receiver inner environment (.symbol name) state = .ok value state := by
  change EStateM.Result.ok ((state.store.get? environment name).getD (.symbol name)) state = _
  rw [h]
  rfl

theorem settles_send {receiving : Value} {name : String}
    (hbound : (state.store.get? environment SpecialForm.send.symbol).isSome = true)
    (hreceiver : ∀ inner, receiver inner environment receiving state = .ok value state)
    (hoperands : GivesEach environment operands state arguments after) :
    Settles (fun fuel => evalAt fuel environment
      (.ofList (.symbol SpecialForm.send.symbol :: receiving :: .keyword name :: operands)))
      state (send after.names name value arguments) (· = after) := by
  obtain ⟨fuel, hrun⟩ := hoperands
  have hdeep : evalEach (evalAt (fuel + 1) environment) operands state = .ok arguments after :=
    (steady_evalEach environment operands _ _ (Nat.le_succ fuel)).ok hrun
  have hkeyword : evalAt (fuel + 1) environment (.keyword name) state =
      .ok (.keyword name) state := rfl
  have hname : operationName (.keyword name) state = .ok name state := rfl
  have hget : (get : Eval State) after = .ok after after := rfl
  have hsent : evalSpecial (layers (fuel + 1)) environment .send
      (receiving :: .keyword name :: operands) state =
        Eval.ofExcept (send after.names name value arguments) after :=
    (bind_ok (hreceiver _)).trans ((bind_ok hkeyword).trans ((bind_ok hname).trans
      ((bind_ok hdeep).trans (bind_ok hget))))
  refine (endTogether_special .send hbound _).settles ?_
  cases hresult : send after.names name value arguments with
  | ok result =>
      rw [hresult] at hsent
      exact .of_eventually ⟨fuel + 1, hsent⟩ rfl
  | error error =>
      rw [hresult] at hsent
      exact ⟨fuel + 1, after, hsent⟩

theorem settles_closure {id : Nat} {kind : ClosureKind} {parameters : Parameters}
    {expression : Value} {scope : Environment}
    (harity : parameters.arity.Admits arguments.length)
    (h : Settles (fun fuel => evalAt fuel (scope.push state.store.locals.size) expression)
      (state.aside [parameters.frame arguments]) outcome ends) :
    Settles
      (fun fuel => applyAt fuel (.closure id kind parameters (.ofList [expression]) scope) arguments)
      state outcome ends := by
  cases outcome with
  | ok value =>
      obtain ⟨after, hvalue, hends⟩ := h
      exact ⟨after, answers_closure harity hvalue, hends⟩
  | error error =>
      obtain ⟨fuel, after, hrun⟩ := h
      exact ⟨fuel + 1, after, (applyAt_closure harity fuel).trans hrun⟩

end Evaluator

end Lisplet
