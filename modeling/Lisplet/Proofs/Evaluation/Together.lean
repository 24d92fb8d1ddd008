import Lisplet.Proofs.Evaluation.Expansion
import Lisplet.Proofs.Evaluation.Rules

namespace Lisplet

/-! Computations that end together, put together from parts that do. -/

namespace Eval

variable {first second third : EStateM.Result Halt State α}

theorem SameButStack.symm (h : SameButStack first second) : SameButStack second first := by
  cases h with
  | ok value after => exact .ok value after
  | error halt after stack => exact .error halt { after with stack } after.stack

theorem SameButStack.trans (h : SameButStack first second) (h' : SameButStack second third) :
    SameButStack first third := by
  cases h with
  | ok => exact h'
  | error halt after stack =>
      cases h' with
      | error _ after' _ => exact .error halt after' stack

theorem SameButStack.ends (h : SameButStack first second) (hends : Ends first) : Ends second := by
  cases h with
  | ok => exact hends
  | error halt after stack =>
      intro other hother
      cases hother
      exact hends _ rfl

variable {family other : Nat → Eval α} {state : State}

namespace EndTogether

theorem refl (family : Nat → Eval α) (state : State) : EndTogether family family state :=
  ⟨fun fuel _ => ⟨fuel, .refl _⟩, fun fuel _ => ⟨fuel, .refl _⟩⟩

theorem symm (h : EndTogether family other state) : EndTogether other family state where
  forth fuel hends := (h.back fuel hends).imp fun _ hsame => hsame.symm
  back fuel hends := (h.forth fuel hends).imp fun _ hsame => hsame.symm

theorem trans {another : Nat → Eval α} (h : EndTogether family other state)
    (h' : EndTogether other another state) : EndTogether family another state where
  forth fuel hends := by
    obtain ⟨fuel', hsame⟩ := h.forth fuel hends
    obtain ⟨fuel'', hsame'⟩ := h'.forth fuel' (hsame.ends hends)
    exact ⟨fuel'', hsame.trans hsame'⟩
  back fuel hends := by
    obtain ⟨fuel', hsame⟩ := h'.back fuel hends
    obtain ⟨fuel'', hsame'⟩ := h.back fuel' (hsame.symm.ends hends)
    exact ⟨fuel'', hsame'.trans hsame⟩

theorem eventually (h : EndTogether family other state) {value : α} {after : State}
    (hrun : Eventually other state value after) : Eventually family state value after := by
  obtain ⟨fuel, hrun⟩ := hrun
  have hends : Ends (other fuel state) := hrun ▸ fun _ => nofun
  obtain ⟨fuel', hsame⟩ := h.back fuel hends
  rw [hrun] at hsame
  generalize hfamily : family fuel' state = ended at hsame
  cases hsame with
  | ok => exact ⟨fuel', hfamily⟩

/-- One of them may need more layers than the other one. -/
theorem of_shift (hfamily : Steady family) (hother : Steady other) (count count' : Nat)
    (h : ∀ fuel, SameButStack (family (fuel + count) state) (other (fuel + count') state)) :
    EndTogether family other state where
  forth fuel hends := by
    have hdeeper := hfamily.eq_of_ends (Nat.le_add_right fuel count) hends
    exact ⟨fuel + count', hdeeper ▸ h fuel⟩
  back fuel hends := by
    have hdeeper := hother.eq_of_ends (Nat.le_add_right fuel count') hends
    exact ⟨fuel + count, hdeeper ▸ h fuel⟩

theorem of_eventually (hfamily : Steady family) {computation : Eval α} {value : α} {after : State}
    (h : Eventually family state value after) (hrun : computation state = .ok value after) :
    EndTogether family (fun _ => computation) state where
  forth fuel hends := by
    obtain ⟨enough, hfirst⟩ := h
    have hdeep := hfamily.eq_of_ends (Nat.le_max_left fuel enough) hends
    have hdeeper := (hfamily _ _ (Nat.le_max_right fuel enough)).ok hfirst
    refine ⟨0, ?_⟩
    rw [← hdeep, hdeeper, hrun]
    exact .refl _
  back _ _ := by
    obtain ⟨enough, hfirst⟩ := h
    refine ⟨enough, ?_⟩
    rw [hfirst, hrun]
    exact .refl _

section Bind

variable {next next' : Nat → α → Eval β}

theorem forth_bind (hother : Steady other) (hnext' : ∀ value, Steady fun fuel => next' fuel value)
    (h : EndTogether family other state)
    (hnext : ∀ value after, Eventually family state value after →
      EndTogether (fun fuel => next fuel value) (fun fuel => next' fuel value) after)
    (fuel : Nat) (hends : Ends ((family fuel >>= next fuel) state)) :
    ∃ fuel', SameButStack ((family fuel >>= next fuel) state)
      ((other fuel' >>= next' fuel') state) := by
  cases hrun : family fuel state with
  | error halt after =>
      rw [bind_error hrun] at hends ⊢
      have hfirst : Ends (family fuel state) := by
        rw [hrun]
        intro last hlast
        cases hlast
        exact hends _ rfl
      obtain ⟨fuel', hsame⟩ := h.forth fuel hfirst
      refine ⟨fuel', ?_⟩
      generalize hother' : other fuel' state = ended at hsame
      rw [hrun] at hsame
      cases hsame with
      | error _ after' stack =>
          rw [bind_error hother']
          exact .error halt after' stack
  | ok value after =>
      rw [bind_ok hrun] at hends ⊢
      have hfirst : Ends (family fuel state) := by
        rw [hrun]
        exact fun _ => nofun
      obtain ⟨fuel', hsame⟩ := h.forth fuel hfirst
      obtain ⟨fuel'', hlast⟩ := (hnext value after ⟨fuel, hrun⟩).forth fuel hends
      generalize hother' : other fuel' state = ended at hsame
      rw [hrun] at hsame
      cases hsame with
      | ok =>
          have hdeep := (hother _ _ (Nat.le_max_left fuel' fuel'')).ok hother'
          have hdeeper := (hnext' value).eq_of_ends (Nat.le_max_right fuel' fuel'')
            (hlast.ends hends)
          refine ⟨max fuel' fuel'', ?_⟩
          rw [bind_ok hdeep, hdeeper]
          exact hlast

theorem bind (hfamily : Steady family) (hother : Steady other)
    (hsteady : ∀ value, Steady fun fuel => next fuel value)
    (hsteady' : ∀ value, Steady fun fuel => next' fuel value)
    (h : EndTogether family other state)
    (hnext : ∀ value after, Eventually family state value after →
      EndTogether (fun fuel => next fuel value) (fun fuel => next' fuel value) after) :
    EndTogether (fun fuel => family fuel >>= next fuel) (fun fuel => other fuel >>= next' fuel)
      state where
  forth := forth_bind hother hsteady' h hnext
  back fuel hends := by
    have hback : ∀ value after, Eventually other state value after →
        EndTogether (fun fuel => next' fuel value) (fun fuel => next fuel value) after :=
      fun value after hrun => (hnext value after (h.eventually hrun)).symm
    obtain ⟨fuel', hsame⟩ := forth_bind hfamily hsteady h.symm hback fuel hends
    exact ⟨fuel', hsame.symm⟩

end Bind

end EndTogether

theorem EndTogether.modify {family other : Nat → Eval α} {state : State} (change : State → State)
    (h : EndTogether family other (change state)) :
    EndTogether (fun fuel => (modify change : Eval Unit) >>= fun _ => family fuel)
      (fun fuel => (modify change : Eval Unit) >>= fun _ => other fuel) state :=
  ⟨h.forth, h.back⟩

theorem EndTogether.extend {family other : Nat → Environment → Eval α} {state : State}
    {environment : Environment} {frame : Frame}
    (h : EndTogether (fun fuel => family fuel (environment.push state.store.locals.size))
      (fun fuel => other fuel (environment.push state.store.locals.size)) (state.aside [frame])) :
    EndTogether (fun fuel => Eval.extend environment frame >>= family fuel)
      (fun fuel => Eval.extend environment frame >>= other fuel) state := by
  have hrun : ∀ next : Environment → Eval α, (Eval.extend environment frame >>= next) state =
      next (environment.push state.store.locals.size) (state.aside [frame]) :=
    fun next => bind_ok (extend_eq environment frame state)
  constructor
  · intro fuel hends
    simp only [hrun] at hends ⊢
    exact h.forth fuel hends
  · intro fuel hends
    simp only [hrun] at hends ⊢
    exact h.back fuel hends

/-- Makes frames that no environment in use refers to. -/
def setAside (frames : List Frame) : Eval Unit :=
  modify fun state => state.aside frames

theorem EndTogether.setAside {family other : Nat → Eval α} {state : State} {frames : List Frame}
    (h : EndTogether family other (state.aside frames)) :
    EndTogether (fun fuel => Eval.setAside frames >>= fun _ => family fuel)
      (fun fuel => Eval.setAside frames >>= fun _ => other fuel) state :=
  .modify _ h

end Eval

namespace Evaluator

open Eval

variable {environment : Environment} {state after : State}

variable [RegexEngine]

theorem endTogether_constant {value : Value} (h : value.isConstant = true)
    (environment : Environment) (state : State) :
    EndTogether (fun fuel => evalAt fuel environment value) (fun _ => Pure.pure value) state := by
  refine .of_shift (steady_evalAt environment value) (steady_const _) 1 0 fun fuel => ?_
  cases value with
  | symbol => cases h
  | cons => cases h
  | _ => exact .refl _

/-- Once the value of the head is known, marking the form only makes a difference to the stack. -/
theorem sameButStack_of_head {fuel : Nat} {head operator : Value}
    (hhead : evalAt fuel environment head state = .ok operator after) (operands : List Value) :
    SameButStack (evalAt (fuel + 1) environment (.ofList (head :: operands)) state)
      (applyForm (layers fuel) environment head operator operands after) := by
  rw [evalAt_of_head hhead]
  exact sameButStack_applying head
    (@Law.applyForm stackLaw _ _ _ (stackLaw_respects fuel) environment head operator operands) after

theorem endTogether_form (environment : Environment) (head : Value) (operands : List Value)
    (state : State) :
    EndTogether (fun fuel => evalAt fuel environment (.ofList (head :: operands)))
      (fun fuel => evalAt fuel environment head >>= fun operator =>
        applyForm (layers fuel) environment head operator operands) state := by
  refine .of_shift (steady_evalAt environment _) ((steady_evalAt environment head).bind
    fun operator => steady_applyForm environment head operator operands) 1 0 fun fuel => ?_
  have hsame : SameButStack (evalAt (fuel + 1) environment (.ofList (head :: operands)) state)
      ((evalAt fuel environment head >>= fun operator =>
        applyForm (layers fuel) environment head operator operands) state) := by
    cases hhead : evalAt fuel environment head state with
    | ok operator after =>
        rw [bind_ok hhead]
        exact sameButStack_of_head hhead operands
    | error halt after =>
        have hform : evalAt (fuel + 1) environment (.ofList (head :: operands)) state =
            .error halt after := bind_error hhead
        rw [bind_error hhead, hform]
        exact .refl _
  exact hsame

theorem endTogether_special (form : SpecialForm)
    (hbound : (state.store.get? environment form.symbol).isSome = true) (operands : List Value) :
    EndTogether
      (fun fuel => evalAt fuel environment (.ofList (.symbol form.symbol :: operands)))
      (fun fuel => evalSpecial (layers fuel) environment form operands) state := by
  obtain ⟨operator, hoperator⟩ := Option.isSome_iff_exists.mp hbound
  have hsteady : Steady fun fuel => evalSpecial (layers fuel) environment form operands :=
    fun _ _ hle => @Law.evalSpecial fuelLaw _ _ _ (fuelLaw_respects hle) environment form operands
  refine .of_shift (steady_evalAt environment _) hsteady 2 1 fun fuel => ?_
  have hsame := sameButStack_of_head (evalAt_symbol hoperator fuel) operands
  rw [applyForm_special] at hsame
  exact hsame

theorem endTogether_branch
    (hbound : (state.store.get? environment SpecialForm.branch.symbol).isSome = true)
    (condition consequence alternative : Value) :
    EndTogether
      (fun fuel => evalAt fuel environment (.ofList [.symbol SpecialForm.branch.symbol, condition,
        consequence, alternative]))
      (fun fuel => evalAt fuel environment condition >>= fun result =>
        if result.truthy = true then evalAt fuel environment consequence
        else evalAt fuel environment alternative)
      state :=
  endTogether_special .branch hbound [condition, consequence, alternative]

theorem endTogether_branch_of_parts
    (hbound : (state.store.get? environment SpecialForm.branch.symbol).isSome = true)
    {condition consequence alternative : Value} {truthy falsy : Nat → Eval Value}
    (hsteady : Steady truthy) (hsteady' : Steady falsy)
    (htruthy : ∀ value after, Gives environment condition state value after →
      value.truthy = true →
        EndTogether (fun fuel => evalAt fuel environment consequence) truthy after)
    (hfalsy : ∀ value after, Gives environment condition state value after →
      value.truthy = false →
        EndTogether (fun fuel => evalAt fuel environment alternative) falsy after) :
    EndTogether
      (fun fuel => evalAt fuel environment (.ofList [.symbol SpecialForm.branch.symbol, condition,
        consequence, alternative]))
      (fun fuel => evalAt fuel environment condition >>= fun result =>
        if result.truthy = true then truthy fuel else falsy fuel)
      state := by
  refine (endTogether_branch hbound condition consequence alternative).trans ?_
  refine .bind (steady_evalAt environment condition) (steady_evalAt environment condition)
    (fun _ => (steady_evalAt environment consequence).ite (steady_evalAt environment alternative) _)
    (fun _ => hsteady.ite hsteady' _) (.refl _ _) fun value after hgives => ?_
  cases hvalue : value.truthy with
  | true => exact htruthy value after hgives hvalue
  | false => exact hfalsy value after hgives hvalue

theorem endTogether_branch_of_value
    (hbound : (state.store.get? environment SpecialForm.branch.symbol).isSome = true)
    {condition consequence alternative result : Value} {truthy falsy : Nat → Eval Value}
    (hsteady : Steady truthy) (hsteady' : Steady falsy)
    (hcondition : Gives environment condition state result state)
    (htruthy : result.truthy = true →
      EndTogether (fun fuel => evalAt fuel environment consequence) truthy state)
    (hfalsy : result.truthy = false →
      EndTogether (fun fuel => evalAt fuel environment alternative) falsy state) :
    EndTogether
      (fun fuel => evalAt fuel environment (.ofList [.symbol SpecialForm.branch.symbol, condition,
        consequence, alternative]))
      (fun fuel => if result.truthy = true then truthy fuel else falsy fuel)
      state := by
  have hcond := steady_evalAt environment condition
  have hknown : EndTogether (fun fuel => evalAt fuel environment condition)
      (fun _ => Pure.pure result) state := .of_eventually hcond hcondition rfl
  have hbranch : EndTogether
      (fun fuel => evalAt fuel environment condition >>= fun value =>
        if value.truthy = true then evalAt fuel environment consequence
        else evalAt fuel environment alternative)
      (fun fuel => Pure.pure result >>= fun value =>
        if value.truthy = true then truthy fuel else falsy fuel) state := by
    refine .bind hcond (steady_const _)
      (fun _ => (steady_evalAt environment consequence).ite (steady_evalAt environment alternative) _)
      (fun _ => hsteady.ite hsteady' _) hknown fun value after hgives => ?_
    obtain ⟨rfl, rfl⟩ := hcondition.unique hcond hgives
    cases hvalue : value.truthy with
    | true => exact htruthy hvalue
    | false => exact hfalsy hvalue
  simp only [pure_bind] at hbranch
  exact (endTogether_branch hbound condition consequence alternative).trans hbranch

theorem endTogether_expanded {name : Symbol} (hname : namesForm? (.symbol name) = none) {id : Nat}
    {parameters : Parameters} {body expansion : Value} {scope : Environment}
    {operands : List Value} {frames : List Frame}
    (hbound : state.store.get? environment name =
      some (.closure id .expander parameters body scope))
    (hanswers : Answers (.closure id .expander parameters body scope) operands state expansion
      (state.aside frames)) :
    EndTogether (fun fuel => evalAt fuel environment (.ofList (.symbol name :: operands)))
      (fun fuel => setAside frames >>= fun _ => evalAt fuel environment expansion) state := by
  have hcalls := steady_applyAt (.closure id .expander parameters body scope) operands
  have hcall : Steady fun fuel => applyAt (fuel + 1)
      (.closure id .expander parameters body scope) operands :=
    fun _ _ hle => hcalls _ _ (Nat.succ_le_succ hle)
  have happlied : EndTogether
      (fun fuel => evalAt fuel environment (.ofList (.symbol name :: operands)))
      (fun fuel => applyAt (fuel + 1) (.closure id .expander parameters body scope) operands >>=
        fun expansion => evalAt fuel environment expansion) state := by
    refine .of_shift (steady_evalAt environment _) (hcall.bind (steady_evalAt environment)) 2 1
      fun fuel => ?_
    have hsame := sameButStack_of_head (evalAt_symbol hbound fuel) operands
    rw [applyForm_expander hname] at hsame
    exact hsame
  refine happlied.trans ?_
  have hset : (setAside frames >>= fun _ => Pure.pure expansion) state =
      .ok expansion (state.aside frames) := rfl
  have hexpanded := EndTogether.of_eventually hcall
    ((eventually_add hcalls 1).mpr hanswers) hset
  have hvalue := EndTogether.bind hcall (steady_const _) (steady_evalAt environment)
    (steady_evalAt environment) hexpanded fun value after _ => .refl _ _
  simp only [bind_assoc, pure_bind] at hvalue
  exact hvalue

theorem endTogether_closure {id : Nat} {kind : ClosureKind} {parameters : Parameters}
    {expression : Value} {scope : Environment} {arguments : List Value}
    (harity : parameters.arity.Admits arguments.length) (state : State) :
    EndTogether
      (fun fuel => applyAt (fuel + 1) (.closure id kind parameters (.ofList [expression]) scope)
        arguments)
      (fun fuel => Eval.extend scope (parameters.frame arguments) >>= fun inner =>
        evalAt fuel inner expression)
      state := by
  refine .of_shift (fun _ _ hle => steady_applyAt _ arguments _ _ (Nat.succ_le_succ hle))
    ((steady_const _).bind fun inner => steady_evalAt inner expression) 0 0 fun fuel => ?_
  have hcall : applyAt (fuel + 1) (.closure id kind parameters (.ofList [expression]) scope)
      arguments state = (Eval.extend scope (parameters.frame arguments) >>= fun inner =>
        evalAt fuel inner expression) state := by
    rw [applyAt_closure harity, bind_ok (extend_eq _ _ _)]
  have hsame := SameButStack.refl (applyAt (fuel + 1)
    (.closure id kind parameters (.ofList [expression]) scope) arguments state)
  exact hcall ▸ hsame

theorem endTogether_applied {parameters : Parameters} {list expression : Value}
    (hbound : (state.store.get? environment SpecialForm.function.symbol).isSome = true)
    (hparameters : Parameters.ofValue list = .ok parameters)
    (harity : parameters.arity.Admits 1) (operand : Value) :
    EndTogether
      (fun fuel => evalAt fuel environment
        (.ofList [.ofList [.symbol SpecialForm.function.symbol, list, expression], operand]))
      (fun fuel => (modify State.made : Eval Unit) >>= fun _ =>
        evalAt fuel environment operand >>= fun value =>
          Eval.extend environment (parameters.frame [value]) >>= fun inner =>
            evalAt fuel inner expression)
      state := by
  let closure : Value :=
    .closure state.names.next .function parameters (.ofList [expression]) environment
  let head : Value := .ofList [.symbol SpecialForm.function.symbol, list, expression]
  have hmade : Gives environment head state closure state.made :=
    gives_closure .function hbound hparameters
  have hhead : EndTogether (fun fuel => evalAt fuel environment head)
      (fun _ => (modify State.made : Eval Unit) >>= fun _ => Pure.pure closure) state :=
    .of_eventually (steady_evalAt environment head) hmade rfl
  have hentered : ∀ value, Steady fun fuel =>
      Eval.extend environment (parameters.frame [value]) >>= fun inner =>
        evalAt fuel inner expression :=
    fun value => (steady_const _).bind fun inner => steady_evalAt inner expression
  have hcalls : ∀ value, Steady fun fuel => applyAt (fuel + 1) closure [value] :=
    fun value _ _ hle => steady_applyAt closure [value] _ _ (Nat.succ_le_succ hle)
  have hoperand := steady_evalAt environment operand
  have hform := hhead.bind (steady_evalAt environment head) (steady_const _)
    (fun operator => steady_applyForm environment head operator [operand])
    (fun _ => hoperand.bind hentered) fun value after hvalue => ?_
  · simp only [bind_assoc, pure_bind] at hform
    exact (endTogether_form environment head [operand] state).trans hform
  · obtain ⟨rfl, rfl⟩ := hmade.unique (steady_evalAt environment head) hvalue
    have happlied : ∀ inner : Evaluator, applyForm inner environment head closure [operand] =
        inner.eval environment operand >>= fun value => applyValue inner closure [value] := by
      intro inner
      rw [applyForm_function (show namesForm? head = none from rfl) rfl]
      simp only [evalEach, bind_assoc, pure_bind]
    simp only [happlied]
    exact .bind hoperand hoperand hcalls hentered (.refl _ _)
      fun value after _ => endTogether_closure harity after

end Evaluator

end Lisplet
