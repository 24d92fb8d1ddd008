import Lisplet.Proofs.Evaluation.Law
import Lisplet.Proofs.Store

namespace Lisplet.Eval

/-! Whatever is evaluated, and however it ends, the store only grows. -/

def final (computation : Eval α) (state : State) : State :=
  match computation state with
  | .ok _ after | .error _ after => after

theorem final_ok {computation : Eval α} {state after : State} {value : α}
    (h : computation state = .ok value after) : final computation state = after := by
  rw [final, h]

theorem final_error {computation : Eval α} {state after : State} {halt : Halt}
    (h : computation state = .error halt after) : final computation state = after := by
  rw [final, h]

def Grows (computation : Eval α) : Prop :=
  ∀ state : State, state.store.GrowsInto (final computation state).store

namespace Grows

theorem bind {first : Eval α} {next : α → Eval β} (hfirst : Grows first)
    (hnext : ∀ value, Returns first value → Grows (next value)) : Grows (first >>= next) := by
  intro state
  have hstart := hfirst state
  cases hrun : first state with
  | error halt after =>
      rw [final_error hrun] at hstart
      rw [final_error (bind_error hrun)]
      exact hstart
  | ok value middle =>
      rw [final_ok hrun] at hstart
      have hend := hnext value ⟨state, middle, hrun⟩ middle
      rw [final, bind_ok hrun]
      exact hstart.trans hend

theorem modifyGet {change : State → α × State}
    (h : ∀ state : State, state.store.GrowsInto (change state).2.store) :
    Grows (modifyGet change : Eval α) :=
  h

theorem keeping {computation : Eval α}
    (h : ∀ state, (final computation state).store = state.store) : Grows computation := by
  intro state
  rw [h state]
  exact .refl _

theorem assign (environment : Environment) (key : Symbol) (value : Value) :
    Grows (Eval.assign environment key value) := by
  refine bind (modifyGet ?_) fun assigned _ => ?_
  · intro state
    cases howner : state.store.owner? environment key with
    | none => exact .refl _
    | some owner => exact .bind howner value
  · cases assigned <;> exact keeping fun _ => rfl

end Grows

def growthLaw : Law where
  Holds computation _ := Grows computation
  Marks _ _ := True
  pure _ := .keeping fun _ => rfl
  throw _ := .keeping fun _ => rfl
  bind := .bind
  get _ _ hnext := fun state => hnext state state
  applying _ hbody :=
    .bind (.keeping fun _ => rfl) fun _ _ => .bind hbody fun _ _ => .keeping fun _ => rfl
  print _ := .keeping fun _ => rfl
  intern _ := .keeping fun _ => rfl
  recordLoad _ := .keeping fun _ => rfl
  define key value := .modifyGet fun state => .define state.store key value
  assign := .assign
  extend environment frame := .modifyGet fun state => .extend state.store environment frame
  newClosure _ _ _ _ := .keeping fun _ => rfl
  nameClosure _ value := by cases value <;> exact .keeping fun _ => rfl

variable [RegexEngine]

theorem run_grows (fuel : Nat) (request : Request) : Grows (request.run fuel) :=
  request.law_run (growthLaw.respects_layers (fun _ _ _ _ _ _ => trivial) fuel)

end Lisplet.Eval
