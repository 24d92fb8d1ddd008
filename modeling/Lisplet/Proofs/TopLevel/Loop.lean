import Lisplet.Proofs.Reader.Consumption
import Lisplet.Regex.PatternEngine
import Lisplet.TopLevel

namespace Lisplet.TopLevel

/-! Both loops as lists of stages. Each stage before the last takes a character, so that a loop
cannot have more of them than there are characters. -/

/-! A step depends on nothing of its reader but the text that is left. -/

def promptAgain (reader : Reader) : Reader :=
  if reader.atLineStart then reader.resetPrompt else reader

def closing : Outcome → Transcript
  | .ended => [.prompt "\n"]
  | _ => []

def closingOf (stages : List Stage) : Transcript :=
  (stages.getLast?.map fun stage => closing stage.outcome).getD []

theorem closing_of_not_isLast {outcome : Outcome} (h : outcome.isLast = false) :
    closing outcome = [] := by
  cases outcome with
  | ended => cases h
  | _ => rfl

theorem closingOf_cons {stage : Stage} (h : stage.outcome.isLast = false) (stages : List Stage) :
    closingOf (stage :: stages) = closingOf stages := by
  cases stages with
  | nil => exact closing_of_not_isLast h
  | cons next stages => rw [closingOf, closingOf, List.getLast?_cons_cons]

/-- What is done to a reader between stages leaves its text alone. -/
structure KeepsText (turn : Reader → Reader) : Prop where
  rest : ∀ reader, (turn reader).source.rest = reader.source.rest
  steady : ∀ reader, reader.source.Steady → (turn reader).source.Steady

theorem keepsText_id : KeepsText id :=
  ⟨fun _ => rfl, fun _ => id⟩

theorem keepsText_promptAgain : KeepsText promptAgain where
  rest reader := by
    rw [promptAgain]
    split
    · exact Source.rest_resetPrompt reader.source
    · rfl
  steady reader h := by
    rw [promptAgain]
    split
    · exact h.resetPrompt
    · exact h

section

variable [RegexEngine]

def react (text : List Char) (state : State) : Outcome × State :=
  if (Reader.dropBlankLine? text).isSome then (.blank, state)
  else
    let reading := Reader.read (Reader.behindBlanks text)
    let state := { state with symbols := state.symbols.internAll reading.met }
    match reading.outcome with
    | .error error => Outcome.ofError error state
    | .ok none => (.ended, state)
    | .ok (some datum) => evaluate datum state

def textAfter (text : List Char) : List Char :=
  if (Reader.dropBlankLine? text).isSome then Reader.behindBlanks text
  else (Reader.read (Reader.behindBlanks text)).rest

section Text

variable {text : List Char} {state : State}

theorem evaluate_ne_ended (datum : Value) (state : State) : (evaluate datum state).1 ≠ .ended := by
  rw [evaluate]
  split <;> simp [Outcome.ofError]

theorem react_eq_ended_iff : (react text state).1 = .ended ↔
    Reader.dropBlankLine? text = none ∧ Reader.OnlyLayout (Reader.behindBlanks text) := by
  rw [react, ← Reader.read_eq_none_iff]
  cases Reader.dropBlankLine? text with
  | some rest => simp
  | none =>
      cases houtcome : (Reader.read (Reader.behindBlanks text)).outcome with
      | error error => simp [Outcome.ofError, houtcome]
      | ok first =>
          cases first with
          | none => simp [houtcome]
          | some datum => simp [houtcome, evaluate_ne_ended]

theorem textAfter_of_ended (h : (react text state).1 = .ended) : textAfter text = [] := by
  obtain ⟨hblank, hlayout⟩ := react_eq_ended_iff.mp h
  rw [textAfter, if_neg (by simp [hblank]), Reader.read_of_onlyLayout hlayout]

theorem textAfter_length_lt (h : (react text state).1 ≠ .ended) :
    (textAfter text).length < text.length := by
  rw [Ne, react_eq_ended_iff] at h
  rw [textAfter]
  cases hblank : Reader.dropBlankLine? text with
  | some rest =>
      rw [Option.isSome_some, if_pos rfl, Reader.behindBlanks, hblank]
      exact (Reader.dropBlankLine?_length_lt hblank).2
  | none =>
      have hshorter := Reader.read_length_lt fun hlayout => h ⟨hblank, hlayout⟩
      have hbehind := (Reader.behindBlanks_suffix text).length_le
      rw [Option.isSome_none, if_neg Bool.false_ne_true]
      omega

end Text

section Stage

variable {style : Style} {state : State} {reader : Reader}

def readerAfter (reader : Reader) : Reader :=
  if reader.skipBlankLine.1 then reader.skipBlankLine.2 else reader.skipBlankLine.2.next.2

theorem invariant_readerAfter {P : Source → Prop} (hinvariant : Source.Invariant P)
    (hsource : P reader.source) : P (readerAfter reader).source := by
  have hskipped := Reader.invariant_skipBlankLine hinvariant hsource
  rw [readerAfter]
  split
  · exact hskipped
  · exact Reader.invariant_consume hinvariant hskipped _ _

theorem rest_readerAfter (hsteady : reader.source.Steady) :
    (readerAfter reader).source.rest = textAfter reader.source.rest := by
  have hskipped := Reader.invariant_skipBlankLine Source.steady_invariant hsteady
  rw [readerAfter, textAfter, ← Reader.skipBlankLine_fst, ← Reader.rest_skipBlankLine hsteady,
    ← Reader.rest_next hskipped]
  split <;> rfl

theorem step_reader : (step state reader).2.2 = readerAfter reader := by
  rw [step, readerAfter]
  cases reader.skipBlankLine with
  | mk skipped reader =>
      cases skipped with
      | true => rfl
      | false =>
          simp only [Bool.false_eq_true, if_false]
          cases reader.next.1.outcome with
          | error error => rfl
          | ok first => cases first <;> rfl

theorem step_eq (hsteady : reader.source.Steady) :
    step state reader = ((react reader.source.rest state).1, (react reader.source.rest state).2,
      readerAfter reader) := by
  have hnext : reader.skipBlankLine.2.next.1 =
      Reader.read (Reader.behindBlanks reader.source.rest) := by
    rw [← Reader.rest_skipBlankLine hsteady]
    rfl
  rw [step, react, readerAfter, ← hnext, ← Reader.skipBlankLine_fst]
  cases reader.skipBlankLine with
  | mk skipped reader =>
      cases skipped with
      | true => rfl
      | false =>
          simp only [Bool.false_eq_true, if_false]
          cases reader.next.1.outcome with
          | error error => rfl
          | ok first => cases first <;> rfl

def Stage.result (stage : Stage) : Outcome × State :=
  (stage.outcome, stage.state)

theorem stage_result (hsteady : reader.source.Steady) :
    (stage style state reader).result = react reader.source.rest { state with output := "" } := by
  rw [stage, step_eq hsteady]
  rfl

theorem stage_outcome (hsteady : reader.source.Steady) : (stage style state reader).outcome =
    (react reader.source.rest { state with output := "" }).1 :=
  congrArg Prod.fst (@stage_result _ style state reader hsteady)

theorem stage_reader : (stage style state reader).reader =
    { readerAfter reader with source := (readerAfter reader).source.clearPrompts } := by
  rw [← @step_reader _ { state with output := "" } reader]
  rfl

theorem steady_stage (hsteady : reader.source.Steady) :
    (stage style state reader).reader.source.Steady := by
  rw [stage_reader]
  have hafter := invariant_readerAfter Source.steady_invariant hsteady
  exact ⟨hafter.nonempty, hafter.texts⟩

theorem rest_stage (hsteady : reader.source.Steady) :
    (stage style state reader).reader.source.rest = textAfter reader.source.rest := by
  rw [stage_reader, Source.rest_clearPrompts, rest_readerAfter hsteady]

theorem stage_length_lt (hsteady : reader.source.Steady)
    (h : (stage style state reader).outcome.isLast = false) :
    (stage style state reader).reader.source.rest.length < reader.source.rest.length := by
  rw [rest_stage hsteady]
  rw [stage_outcome hsteady] at h
  apply textAfter_length_lt
  intro hended
  rw [hended] at h
  cases h

theorem rest_eq_nil_of_ended (hsteady : reader.source.Steady)
    (h : (stage style state reader).outcome = .ended) :
    (stage style state reader).reader.source.rest = [] := by
  rw [stage_outcome hsteady] at h
  rw [rest_stage hsteady, textAfter_of_ended h]

end Stage

/-- The stages that a loop goes through; between any two of them it does `turn` to its reader. -/
def stagesFor (turn : Reader → Reader) (style : Style) : Nat → State → Reader → List Stage
  | 0, _, _ => []
  | steps + 1, state, reader =>
      let stage := stage style state reader
      if stage.outcome.isLast then [stage]
      else stage :: stagesFor turn style steps stage.state (turn stage.reader)

def finalState (state : State) (stages : List Stage) : State :=
  stages.foldl (fun _ stage => stage.state) state

theorem runFor_eq (style : Style) (steps : Nat) (state : State) (reader : Reader) :
    runFor style steps state reader =
      ((stagesFor id style steps state reader).flatMap Stage.events,
        finalState state (stagesFor id style steps state reader)) := by
  induction steps generalizing state reader with
  | zero => rfl
  | succ steps ih =>
      rw [runFor, stagesFor]
      dsimp only
      split
      · simp [finalState]
      · rw [ih]
        simp [finalState]

theorem promptFor_of_not_isLast {style : Style} {state : State} {reader : Reader}
    (h : (stage style state reader).outcome.isLast = false) (steps : Nat) :
    promptFor style (steps + 1) state reader =
      let later := promptFor style steps (stage style state reader).state
        (promptAgain (stage style state reader).reader)
      ((stage style state reader).events ++ later.1, later.2) := by
  rw [promptFor]
  cases houtcome : (stage style state reader).outcome with
  | ended => simp [houtcome, Outcome.isLast] at h
  | exited => simp [houtcome, Outcome.isLast] at h
  | exhausted => simp [houtcome, Outcome.isLast] at h
  | _ => rfl

theorem promptFor_of_isLast {style : Style} {state : State} {reader : Reader}
    (h : (stage style state reader).outcome.isLast = true) (steps : Nat) :
    promptFor style (steps + 1) state reader =
      ((stage style state reader).events ++ closing (stage style state reader).outcome,
        (stage style state reader).state) := by
  rw [promptFor]
  cases houtcome : (stage style state reader).outcome with
  | ended => rfl
  | exited => simp [closing]
  | exhausted => simp [closing]
  | _ => simp [houtcome, Outcome.isLast] at h

theorem promptFor_eq (style : Style) (steps : Nat) (state : State) (reader : Reader) :
    promptFor style steps state reader =
      ((stagesFor promptAgain style steps state reader).flatMap Stage.events ++
          closingOf (stagesFor promptAgain style steps state reader),
        finalState state (stagesFor promptAgain style steps state reader)) := by
  induction steps generalizing state reader with
  | zero => rfl
  | succ steps ih =>
      rw [stagesFor]
      split
      · rename_i hlast
        rw [promptFor_of_isLast hlast]
        simp [finalState, closingOf]
      · rename_i hlast
        rw [Bool.not_eq_true] at hlast
        rw [promptFor_of_not_isLast hlast, ih, closingOf_cons hlast]
        simp [finalState]

/-- All stages but the last go on, and there are no more of them than characters. -/
theorem stagesFor_complete {turn : Reader → Reader} (hturn : KeepsText turn) (style : Style)
    {steps : Nat} (state : State) {reader : Reader} (hsteady : reader.source.Steady)
    (hsteps : reader.source.rest.length < steps) :
    ∃ front last, stagesFor turn style steps state reader = front ++ [last] ∧
      front.length ≤ reader.source.rest.length ∧
      (∀ stage ∈ front, stage.outcome.isLast = false) ∧ last.outcome.isLast = true ∧
      (last.outcome = .ended → last.reader.source.rest = []) := by
  induction steps generalizing state reader with
  | zero => omega
  | succ steps ih =>
      rw [stagesFor]
      split
      · rename_i hlast
        refine ⟨[], _, rfl, Nat.zero_le _, by simp, hlast, ?_⟩
        exact rest_eq_nil_of_ended hsteady
      · rename_i hlast
        rw [Bool.not_eq_true] at hlast
        have hshorter := stage_length_lt hsteady hlast
        have hnext : (turn (stage style state reader).reader).source.Steady :=
          hturn.steady _ (steady_stage hsteady)
        rw [← hturn.rest] at hshorter
        obtain ⟨front, last, hstages, hlength, hfront, hend⟩ :=
          ih (stage style state reader).state hnext (by omega)
        refine ⟨stage style state reader :: front, last, by rw [hstages]; rfl, ?_, ?_, hend⟩
        · rw [List.length_cons]
          omega
        · intro stage hstage
          rcases List.mem_cons.mp hstage with rfl | hlater
          · exact hlast
          · exact hfront stage hlater

/-- Calls and steps come to the end of the text, and there is at most one of them for each character
and one more, unless the program exits or an evaluation does not come to an end. -/
theorem progress_and_end {reader : Reader} (hsteady : reader.source.Steady) :
    reader.Progress ∧ ∀ style state steps, reader.source.rest.length < steps →
      let stages := stagesFor id style steps state reader
      runFor style steps state reader =
          (stages.flatMap Stage.events, finalState state stages) ∧
        stages.length ≤ reader.source.rest.length + 1 ∧
        ((∀ stage ∈ stages, stage.outcome ≠ .exited ∧ stage.outcome ≠ .exhausted) →
          ∃ last, stages.getLast? = some last ∧ last.outcome = .ended ∧
            last.reader.source.rest = []) := by
  refine ⟨reader.progress hsteady, fun style state steps hsteps => ?_⟩
  obtain ⟨front, last, hstages, hlength, _, hlast, hended⟩ :=
    stagesFor_complete keepsText_id style state hsteady hsteps
  refine ⟨runFor_eq style steps state reader, ?_, fun hgoes => ?_⟩
  · rw [hstages, List.length_append, List.length_singleton]
    omega
  · rw [hstages] at hgoes ⊢
    obtain ⟨hexited, hexhausted⟩ := hgoes last (by simp)
    have houtcome : last.outcome = .ended := by
      cases hout : last.outcome with
      | ended => rfl
      | exited => exact absurd hout hexited
      | exhausted => exact absurd hout hexhausted
      | _ => simp [hout, Outcome.isLast] at hlast
    exact ⟨last, by simp, houtcome, hended houtcome⟩

end

open scoped Pattern

/-- One character and two steps: the bound is reached. -/
theorem progress_and_end_stray_paren :
    (Source.ofText [')']).Steady ∧ Reader.Progress { source := .ofText [')'] } ∧
      (stagesFor id ⟨true, false⟩ 2 (State.initial .empty) { source := .ofText [')'] }).map
        Stage.outcome = [.failed .strayClose [], .ended] ∧
      ∃ last,
        (stagesFor id ⟨true, false⟩ 2 (State.initial .empty)
          { source := .ofText [')'] }).getLast? = some last ∧
        last.outcome = .ended ∧ last.reader.source.rest = [] := by
  have hsteady := Source.steady_ofText [')']
  have hsound := @progress_and_end _ { source := .ofText [')'] } hsteady
  have houtcomes : (stagesFor id ⟨true, false⟩ 2 (State.initial .empty)
      { source := .ofText [')'] }).map Stage.outcome = [.failed .strayClose [], .ended] := rfl
  refine ⟨hsteady, hsound.1, houtcomes, (hsound.2 _ _ 2 (by decide)).2.2 ?_⟩
  intro stage hstage
  have houtcome := List.mem_map_of_mem (f := Stage.outcome) hstage
  rw [houtcomes] at houtcome
  rcases List.mem_cons.mp houtcome with hfailed | hended
  · simp [hfailed]
  · simp [List.mem_singleton.mp hended]

end Lisplet.TopLevel
