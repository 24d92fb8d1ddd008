import Lisplet.Proofs.Evaluation.Law

namespace Lisplet.Eval

/-! The stack is only written to: a computation that succeeds leaves it as it was, one that fails
leaves on top of it the heads of the forms whose application failed, and nothing else depends on
what was on it. -/

def Disciplined (Head : Halt → Value → Prop) (computation : Eval α) : Prop :=
  ∀ state : State,
    match computation state with
    | .ok value after =>
        after.stack = state.stack ∧
          ∀ stack, computation { state with stack } = .ok value { after with stack }
    | .error halt after =>
        ∃ added, after.stack = added ++ state.stack ∧ (∀ head ∈ added, Head halt head) ∧
          ∀ stack, computation { state with stack } =
            .error halt { after with stack := added ++ stack }

namespace Disciplined

variable {Head : Halt → Value → Prop}

theorem stack_eq {computation : Eval α} (h : Disciplined Head computation) {state after : State}
    {value : α} (hrun : computation state = .ok value after) : after.stack = state.stack := by
  have hstate := h state
  rw [hrun] at hstate
  exact hstate.1

theorem pure (value : α) : Disciplined Head (Pure.pure value) :=
  fun _ => ⟨rfl, fun _ => rfl⟩

theorem throw (halt : Halt) : Disciplined Head (throw halt : Eval α) :=
  fun _ => ⟨[], rfl, by simp, fun _ => rfl⟩

theorem bind {first : Eval α} {next : α → Eval β} (hfirst : Disciplined Head first)
    (hnext : ∀ value, Returns first value → Disciplined Head (next value)) :
    Disciplined Head (first >>= next) := by
  intro state
  have hstart := hfirst state
  cases hrun : first state with
  | error halt after =>
      rw [hrun] at hstart
      obtain ⟨added, hstack, hheads, hfree⟩ := hstart
      rw [bind_error hrun]
      exact ⟨added, hstack, hheads, fun stack => bind_error (hfree stack)⟩
  | ok value middle =>
      rw [hrun] at hstart
      obtain ⟨hmiddle, hfree⟩ := hstart
      have hend := hnext value ⟨state, middle, hrun⟩ middle
      rw [bind_ok hrun]
      cases hlast : next value middle with
      | ok result after =>
          rw [hlast] at hend
          refine ⟨hend.1.trans hmiddle, fun stack => ?_⟩
          rw [bind_ok (hfree stack)]
          exact hend.2 stack
      | error halt after =>
          rw [hlast] at hend
          obtain ⟨added, hstack, hheads, hlater⟩ := hend
          refine ⟨added, by rw [hstack, hmiddle], hheads, fun stack => ?_⟩
          rw [bind_ok (hfree stack)]
          exact hlater stack

theorem get {next : State → Eval α}
    (hindependent : ∀ state stack, next { state with stack } = next state)
    (hnext : ∀ state, Disciplined Head (next state)) :
    Disciplined Head (MonadState.get >>= next) := by
  intro state
  have hrun : ∀ state, (MonadState.get >>= next) state = next state state := fun _ => rfl
  have hend := hnext state state
  rw [hrun]
  cases hlast : next state state with
  | ok value after =>
      rw [hlast] at hend
      exact ⟨hend.1, fun stack => by rw [hrun, hindependent, hend.2 stack]⟩
  | error halt after =>
      rw [hlast] at hend
      obtain ⟨added, hstack, hheads, hfree⟩ := hend
      exact ⟨added, hstack, hheads, fun stack => by rw [hrun, hindependent, hfree stack]⟩

theorem modifyGet {change : State → α × State}
    (hstack : ∀ state, (change state).2.stack = state.stack)
    (hfree : ∀ state stack,
      change { state with stack } = ((change state).1, { (change state).2 with stack })) :
    Disciplined Head (modifyGet change : Eval α) := by
  intro state
  refine ⟨hstack state, fun stack => ?_⟩
  change EStateM.Result.ok _ _ = _
  rw [hfree]

theorem applying {head : Value} {body : Eval Value}
    (hhead : ∀ state halt after, body state = .error halt after → Head halt head)
    (hbody : Disciplined Head body) : Disciplined Head (Eval.applying head body) := by
  intro state
  have hmarked := hbody { state with stack := head :: state.stack }
  have hrun : ∀ state, Eval.applying head body state =
      (body >>= fun value => pop >>= fun _ => Pure.pure value)
        { state with stack := head :: state.stack } := fun _ => rfl
  rw [hrun]
  cases hlast : body { state with stack := head :: state.stack } with
  | ok value after =>
      rw [hlast] at hmarked
      obtain ⟨hstack, hfree⟩ := hmarked
      rw [bind_ok hlast]
      refine ⟨?_, fun stack => ?_⟩
      · change after.stack.tail = state.stack
        rw [hstack]
        rfl
      · rw [hrun, bind_ok (hfree (head :: stack))]
        rfl
  | error halt after =>
      rw [hlast] at hmarked
      obtain ⟨added, hstack, hheads, hfree⟩ := hmarked
      rw [bind_error hlast]
      refine ⟨added ++ [head], by simp [hstack], ?_, fun stack => ?_⟩
      · intro other hother
        rcases List.mem_append.mp hother with hadded | hself
        · exact hheads other hadded
        · rw [List.mem_singleton.mp hself]
          exact hhead _ halt after hlast
      · rw [hrun, bind_error (hfree (head :: stack))]
        simp

/-- Marking a form makes no difference to an application that succeeds. -/
theorem applying_eq_ok_iff {head : Value} {body : Eval Value} (hbody : Disciplined Head body)
    {state after : State} {value : Value} :
    Eval.applying head body state = .ok value after ↔ body state = .ok value after := by
  have hrun : Eval.applying head body state =
      (body >>= fun value => pop >>= fun _ => Pure.pure value)
        { state with stack := head :: state.stack } := rfl
  have hmarked := hbody state
  rw [hrun]
  cases hlast : body state with
  | ok result last =>
      rw [hlast] at hmarked
      obtain ⟨hstack, hfree⟩ := hmarked
      rw [bind_ok (hfree (head :: state.stack)), ← hstack]
      rfl
  | error halt last =>
      rw [hlast] at hmarked
      obtain ⟨added, _, _, hfree⟩ := hmarked
      rw [bind_error (hfree (head :: state.stack))]
      constructor <;> exact fun h => nomatch h

theorem applying_of_error {body : Eval Value} (hbody : Disciplined Head body)
    {state after : State} {halt : Halt} (h : body state = .error halt after) (head : Value) :
    ∃ added, after.stack = added ++ state.stack ∧ Eval.applying head body state =
      .error halt { after with stack := added ++ head :: state.stack } := by
  have hmarked := hbody state
  rw [h] at hmarked
  obtain ⟨added, hstack, _, hfree⟩ := hmarked
  have hrun : Eval.applying head body state =
      (body >>= fun value => pop >>= fun _ => Pure.pure value)
        { state with stack := head :: state.stack } := rfl
  rw [hrun, bind_error (hfree (head :: state.stack))]
  exact ⟨added, hstack, rfl⟩

theorem assign (environment : Environment) (key : Symbol) (value : Value) :
    Disciplined Head (Eval.assign environment key value) := by
  refine bind (modifyGet ?_ ?_) fun assigned _ => ?_
  · intro state
    split <;> rfl
  · intro state stack
    dsimp only
    split <;> rfl
  · cases assigned with
    | true => exact pure _
    | false => exact throw _

theorem nameClosure (name : Symbol) (value : Value) :
    Disciplined Head (Eval.nameClosure name value) := by
  cases value with
  | closure => exact modifyGet (fun _ => rfl) fun _ _ => rfl
  | _ => exact pure _

end Disciplined

variable [RegexEngine]

/-- The head stands before operands in a form whose application ends in the given way. -/
def Applied (halt : Halt) (head : Value) : Prop :=
  ∃ fuel environment operator operands state after,
    Returns (Evaluator.evalAt fuel environment head) operator ∧
      Evaluator.applyForm (Evaluator.layers fuel) environment head operator operands state =
        .error halt after

def stackLaw : Law where
  Holds computation _ := Disciplined Applied computation
  Marks head body := ∀ state halt after, body state = .error halt after → Applied halt head
  pure := .pure
  throw := .throw
  bind := .bind
  get hnext _ hholds :=
    .get (fun state stack => hnext state state.symbols stack state.loads) hholds
  applying := .applying
  print _ := .modifyGet (fun _ => rfl) fun _ _ => rfl
  intern _ := .modifyGet (fun _ => rfl) fun _ _ => rfl
  recordLoad _ := .modifyGet (fun _ => rfl) fun _ _ => rfl
  define _ _ := .modifyGet (fun _ => rfl) fun _ _ => rfl
  assign := .assign
  extend _ _ := .modifyGet (fun _ => rfl) fun _ _ => rfl
  newClosure _ _ _ _ := .modifyGet (fun _ => rfl) fun _ _ => rfl
  nameClosure := .nameClosure

theorem stackLaw_respects (fuel : Nat) :
    stackLaw.Respects (Evaluator.layers fuel) (Evaluator.layers fuel) := by
  refine stackLaw.respects_layers ?_ fuel
  intro fuel environment head operator operands hoperator state halt after hfails
  exact ⟨fuel, environment, operator, operands, state, after, hoperator, hfails⟩

/-- Every request, in every state and with any number of layers: if it succeeds, the stack is what
it was; if it fails, the heads of the forms whose application failed lie on top of what it was; and
apart from what lies below them, neither the outcome nor the state afterwards depends on the
stack. -/
theorem run_disciplined (fuel : Nat) (request : Request) :
    Disciplined Applied (request.run fuel) :=
  request.law_run (stackLaw_respects fuel)

end Lisplet.Eval
