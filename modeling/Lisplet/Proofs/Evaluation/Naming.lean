import Lisplet.Proofs.Evaluation.Parameters
import Lisplet.Proofs.Evaluation.Reachable
import Lisplet.Proofs.Evaluation.Recording
import Lisplet.Regex.PatternEngine

namespace Lisplet

/-! A closure is named at most once, by a definition, and nothing else about it ever changes. -/

namespace Request

variable [RegexEngine]

def record (fuel : Nat) : Request → Recorded Value
  | eval environment datum => Recorder.evalAt fuel environment datum
  | apply callable arguments => Recorder.applyAt fuel callable arguments
  | expand form => Recorder.expandOnce (Recorder.layers fuel) form
  | load path => Recorder.loadFile (Recorder.layers fuel) path

/-- The definitions evaluated in the course of a request, in the order in which their values were
there. -/
def definitions (fuel : Nat) (request : Request) (state : State) : List Ledger.Entry :=
  match request.record fuel ⟨state, []⟩ with
  | .ok _ ledger | .error _ ledger => ledger.entries

theorem accounts_record (fuel : Nat) (request : Request) :
    Recorded.Accounts (request.record fuel) (request.run fuel) := by
  have hlayers := Recorded.Accounts.layers fuel
  cases request with
  | eval environment datum => exact hlayers.eval environment datum
  | apply callable arguments => exact hlayers.apply callable arguments
  | expand form => exact .expandOnce hlayers form
  | load path => exact .loadFile hlayers path

theorem record_eq (fuel : Nat) (request : Request) (state : State) :
    request.record fuel ⟨state, []⟩ =
        Recorded.withEntries (request.definitions fuel state) (request.run fuel state) ∧
      ClosureNames.Explained (request.definitions fuel state) state.names
        (Eval.final (request.run fuel) state).names := by
  obtain ⟨added, hsame, hexplained⟩ := request.accounts_record fuel ⟨state, []⟩
  rw [List.nil_append] at hsame
  have hdefinitions : request.definitions fuel state = added := by
    rw [definitions, hsame]
    cases request.run fuel state <;> rfl
  rw [hdefinitions]
  exact ⟨hsame, hexplained⟩

end Request

section

variable [RegexEngine]

structure KeepsClosures (seen : List Closure) (state : State) (request : Request) (fuel : Nat) :
    Prop where
  /-- The definitions are those of the very run that the request makes. -/
  recorded : request.record fuel ⟨state, []⟩ =
    Recorded.withEntries (request.definitions fuel state) (request.run fuel state)
  present : ∀ closure ∈ seen, closure.id < state.names.next
  /-- Whatever comes into sight with the id of a closure has its kind, parameters, body and
  scope. -/
  unchanged : ∀ closure ∈ seen, ∀ other ∈ request.revealed fuel state ++ seen,
    other.id = closure.id → other = closure
  named : ∀ id name, state.names.get? id = some name →
    (Eval.final (request.run fuel) state).names.get? id = some name
  unnamed : ∀ id < state.names.next, state.names.get? id = none →
    (Eval.final (request.run fuel) state).names.get? id =
      Ledger.nameFor (request.definitions fuel state) id

theorem Reachable.keepsClosures {seen : List Closure} {state : State}
    (hreachable : Reachable seen state) {request : Request} (hrequest : request.InSight seen)
    (fuel : Nat) : KeepsClosures seen state request fuel := by
  obtain ⟨history, hstate, hseen⟩ := hreachable.follows
  obtain ⟨later, hprecedes, _, hlater⟩ := request_continues hstate hseen hrequest fuel
  obtain ⟨hrecorded, hexplained⟩ := request.record_eq fuel state
  refine ⟨hrecorded, ?_, ?_, ?_, ?_⟩
  · intro closure hclosure
    rw [← hstate.closures]
    exact (List.getElem?_eq_some_iff.mp (hseen closure hclosure).1).1
  · intro closure hclosure other hother hid
    exact (hlater other hother).eq_of_id ((hseen closure hclosure).mono hprecedes) hid
  · intro id name hname
    rw [hexplained.get? id (ClosureNames.lt_next_of_get? hname), hname, Option.some_or]
  · intro id hid hname
    rw [hexplained.get? id hid, hname, Option.none_or]

/-! Other ways to bind a closure. What names there are afterwards is up to the evaluations
inside. -/

/-- Neither assignment nor a call nor the underscore adds a name to those that the evaluations
inside leave behind. -/
structure BindsUnnamed : Prop where
  assignment : ∀ (inner : Evaluator) (environment : Environment) (key : Symbol)
    (expression : Value) (state : State),
      (Eval.final (Evaluator.evalSpecial inner environment .assign [.symbol key, expression])
          state).names =
        (Eval.final (inner.eval environment expression) state).names
  parameters : ∀ (eval : Environment → Value → Eval Value) (closure : Closure)
    (arguments : List Value) (state : State), closure.parameters.Fits arguments.length →
      let entered := state.store.extend closure.scope (closure.parameters.frame arguments)
      (Eval.final (closure.invoke eval arguments) state).names =
        (Eval.final (Closure.evalAll (eval entered.1) .nil closure.body.items)
          { state with store := entered.2 }).names
  refusal : ∀ (eval : Environment → Value → Eval Value) (closure : Closure)
    (arguments : List Value) (state : State), ¬closure.parameters.Fits arguments.length →
      (Eval.final (closure.invoke eval arguments) state).names = state.names
  application : ∀ (inner : Evaluator) (arguments : List Value) (state : State),
    (Eval.final (Evaluator.runPrimitive inner .apply arguments) state).names = state.names ∨
      ∃ callable spread,
        (Eval.final (Evaluator.runPrimitive inner .apply arguments) state).names =
          (Eval.final (inner.apply callable spread) state).names
  underscore : ∀ (datum : Value) (state : State),
    (TopLevel.evaluate datum state).2.names = (Eval.final (Session.eval datum) state).names

namespace Eval

theorem names_application (inner : Evaluator) (arguments : List Value) (state : State) :
    (final (Evaluator.runPrimitive inner .apply arguments) state).names = state.names ∨
      ∃ callable spread, (final (Evaluator.runPrimitive inner .apply arguments) state).names =
        (final (inner.apply callable spread) state).names := by
  match arguments with
  | [] | [_] => exact .inl rfl
  | callable :: second :: rest =>
      cases hlast : ((second :: rest).getLastD .nil).toList? with
      | none =>
          left
          simp only [Evaluator.runPrimitive, Evaluator.items, hlast]
          rfl
      | some last =>
          refine .inr ⟨callable, (second :: rest).dropLast ++ last, ?_⟩
          simp only [Evaluator.runPrimitive, Evaluator.items, hlast]
          rfl

theorem names_underscore (datum : Value) (state : State) :
    (TopLevel.evaluate datum state).2.names = (final (Session.eval datum) state).names := by
  rw [TopLevel.evaluate]
  split
  all_goals
    rename_i hrun
    change Session.eval datum state = _ at hrun
  · rw [final_ok hrun]
  · rw [final_error hrun, State.clearStack]
  · rw [final_error hrun, Outcome.ofError, State.clearStack]
  · rw [final_error hrun, State.clearStack]

end Eval

theorem bindsUnnamed : BindsUnnamed where
  assignment inner environment key expression state :=
    Eval.KeepsNames.final_bind
      (fun value => .bind (.assign environment key value) fun _ => .pure value) state
  parameters eval closure arguments state hfits := by
    intro entered
    rw [Eval.final, Closure.invoke_of_fits hfits eval state]
    rfl
  refusal eval closure arguments state hfits := by
    rw [Eval.final, Closure.invoke_of_not_fits hfits eval state]
  application := Eval.names_application
  underscore := Eval.names_underscore

theorem Reachable.run_namesByDefinition {seen : List Closure} {state : State}
    (hreachable : Reachable seen state) {request : Request} (hrequest : request.InSight seen)
    (fuel : Nat) : KeepsClosures seen state request fuel ∧ BindsUnnamed :=
  ⟨hreachable.keepsClosures hrequest fuel, bindsUnnamed⟩

end

open scoped Pattern

/-- A function that was made before, and is bound to the underscore, is defined twice. -/
theorem Reachable.run_namesByDefinition_second_target :
    let x : Value := .symbol ⟨"x"⟩
    let function : Request :=
      .eval .global (.ofList [.symbol ⟨"fn"⟩, .ofList [x], x])
    let closure : Closure := ⟨0, .function, ⟨[⟨"x"⟩], none⟩, .ofList [x], .global⟩
    let before : State :=
      { Eval.final (function.run 4) (.initial .empty) with
        store := (State.initial .empty).store.define .underscore (.ofClosure closure) }
    let definition : Request := .eval .global
      (.ofList [.symbol ⟨"def"⟩, .symbol ⟨"g"⟩,
        .ofList [.symbol ⟨"def"⟩, .symbol ⟨"f"⟩, .symbol .underscore]])
    before.names.get? 0 = none ∧
      (Eval.final (definition.run 8) before).names.get? 0 = some ⟨"f"⟩ ∧
      KeepsClosures (function.revealed 4 (.initial .empty) ++ []) before definition 8 ∧
      BindsUnnamed := by
  intro x function closure before definition
  have hfunction : function.InSight [] := ⟨.inl rfl, fun _ hclosure => nomatch hclosure⟩
  have hmade : Reachable (function.revealed 4 (.initial .empty) ++ []) before :=
    ((Reachable.initial .empty).request 4 hfunction).define .underscore
      fun other hother => List.mem_append_left _ (List.mem_append_left _ hother)
  have hdefinition : definition.InSight (function.revealed 4 (.initial .empty) ++ []) :=
    ⟨.inl rfl, fun _ hclosure => nomatch hclosure⟩
  exact ⟨rfl, rfl, hmade.run_namesByDefinition hdefinition 8⟩

end Lisplet
