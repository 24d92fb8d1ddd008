import Lisplet.Proofs.Evaluation.Stack

namespace Lisplet.Eval

/-! A failure leaves on the stack one head for each application that it broke off, innermost first:
each of them was begun with its head on top of those further out, and all ended in one state. -/

variable [RegexEngine]

def BrokenOff (halt : Halt) (last : State) (head : Value) (outer : List Value) : Prop :=
  ∃ fuel environment operator operands begun,
    Returns (Evaluator.evalAt fuel environment head) operator ∧ begun.stack = head :: outer ∧
      Evaluator.applyForm (Evaluator.layers fuel) environment head operator operands begun =
        .error halt last

/-- Above the base, the stack holds the heads of applications that were broken off. -/
inductive Nested (halt : Halt) (last : State) (base : List Value) : List Value → Prop
  | base : Nested halt last base base
  | head {head : Value} {outer : List Value} :
      BrokenOff halt last head outer → Nested halt last base outer →
        Nested halt last base (head :: outer)

theorem Nested.lower {halt : Halt} {last : State} {head : Value} {base stack : List Value}
    (h : Nested halt last (head :: base) stack) (hhead : BrokenOff halt last head base) :
    Nested halt last base stack := by
  induction h with
  | base => exact .head hhead .base
  | head hinner _ ih => exact .head hinner ih

def Unwinds (computation : Eval α) : Prop :=
  ∀ state halt last, computation state = .error halt last →
    Nested halt last state.stack last.stack

namespace Unwinds

theorem pure (value : α) : Unwinds (Pure.pure value) :=
  fun _ _ _ hrun => nomatch hrun

theorem throw (halt : Halt) : Unwinds (throw halt : Eval α) := by
  intro state other last hrun
  cases hrun
  exact .base

theorem modifyGet (change : State → α × State) : Unwinds (modifyGet change : Eval α) :=
  fun _ _ _ hrun => nomatch hrun

theorem bind {first : Eval α} {next : α → Eval β}
    (hstack : ∀ {state middle value}, first state = .ok value middle →
      middle.stack = state.stack)
    (hfirst : Unwinds first) (hnext : ∀ value, Returns first value → Unwinds (next value)) :
    Unwinds (first >>= next) := by
  intro state halt last hrun
  cases hstart : first state with
  | error other after =>
      rw [bind_error hstart] at hrun
      cases hrun
      exact hfirst _ _ _ hstart
  | ok value middle =>
      rw [bind_ok hstart] at hrun
      rw [← hstack hstart]
      exact hnext value ⟨state, middle, hstart⟩ _ _ _ hrun

theorem applying {head : Value} {body : Eval Value}
    (hhead : ∀ begun outer halt last, begun.stack = head :: outer →
      body begun = .error halt last → BrokenOff halt last head outer)
    (hbody : Unwinds body) : Unwinds (Eval.applying head body) := by
  intro state halt last hrun
  have hmarked : (body >>= fun value => pop >>= fun _ => Pure.pure value)
      { state with stack := head :: state.stack } = .error halt last := hrun
  cases hlast : body { state with stack := head :: state.stack } with
  | ok value after =>
      rw [bind_ok hlast] at hmarked
      cases hmarked
  | error other after =>
      rw [bind_error hlast] at hmarked
      cases hmarked
      exact (hbody _ _ _ hlast).lower (hhead _ _ _ _ rfl hlast)

theorem assign (environment : Environment) (key : Symbol) (value : Value) :
    Unwinds (Eval.assign environment key value) := by
  refine bind ?_ (modifyGet _) fun assigned _ => ?_
  · intro state middle assigned hrun
    cases hrun
    split <;> rfl
  · cases assigned with
    | true => exact pure _
    | false => exact throw _

theorem nameClosure (name : Symbol) (value : Value) :
    Unwinds (Eval.nameClosure name value) := by
  cases value with
  | closure => exact modifyGet _
  | _ => exact pure _

end Unwinds

def nestingLaw : Law where
  Holds computation other := stackLaw.Holds computation other ∧ Unwinds computation
  Marks head body := stackLaw.Marks head body ∧
    ∀ begun outer halt last, begun.stack = head :: outer → body begun = .error halt last →
      BrokenOff halt last head outer
  pure value := ⟨stackLaw.pure value, .pure value⟩
  throw halt := ⟨stackLaw.throw halt, .throw halt⟩
  bind hfirst hnext :=
    ⟨stackLaw.bind hfirst.1 fun value hvalue => (hnext value hvalue).1,
      .bind hfirst.1.stack_eq hfirst.2 fun value hvalue => (hnext value hvalue).2⟩
  get hnext hnext' hholds :=
    ⟨stackLaw.get hnext hnext' fun state => (hholds state).1,
      fun state => (hholds state).2 state⟩
  applying hmarks hbody :=
    ⟨stackLaw.applying hmarks.1 hbody.1, .applying hmarks.2 hbody.2⟩
  print text := ⟨stackLaw.print text, .modifyGet _⟩
  intern symbols := ⟨stackLaw.intern symbols, .modifyGet _⟩
  recordLoad path := ⟨stackLaw.recordLoad path, .modifyGet _⟩
  define key value := ⟨stackLaw.define key value, .modifyGet _⟩
  assign environment key value :=
    ⟨stackLaw.assign environment key value, .assign environment key value⟩
  extend environment frame := ⟨stackLaw.extend environment frame, .modifyGet _⟩
  newClosure kind parameters body scope :=
    ⟨stackLaw.newClosure kind parameters body scope, .modifyGet _⟩
  nameClosure name value := ⟨stackLaw.nameClosure name value, .nameClosure name value⟩

theorem nestingLaw_respects (fuel : Nat) :
    nestingLaw.Respects (Evaluator.layers fuel) (Evaluator.layers fuel) := by
  refine nestingLaw.respects_layers ?_ fuel
  intro fuel environment head operator operands hoperator
  refine ⟨?_, ?_⟩
  · intro state halt after hfails
    exact ⟨fuel, environment, operator, operands, state, after, hoperator, hfails⟩
  · intro begun outer halt last hbegun hfails
    exact ⟨fuel, environment, operator, operands, begun, hoperator, hbegun, hfails⟩

end Lisplet.Eval
