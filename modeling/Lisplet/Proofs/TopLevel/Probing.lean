import Lisplet.Proofs.Reader.Probing
import Lisplet.Proofs.TopLevel.Agreement

namespace Lisplet

/-! The loop at the top level looks for a blank line before each form. But for the blank lines that
it reports, it goes the same way as if it did nothing but read. -/

def Outcome.isBlank : Outcome → Bool
  | .blank => true
  | _ => false

namespace Reader

variable [RegexEngine]

def repeated : Nat → Reader → List (Reading (Option Value))
  | 0, _ => []
  | count + 1, reader => reader.next.1 :: repeated count reader.next.2

def repeatedAt : Nat → List Char → List (Reading (Option Value))
  | 0, _ => []
  | count + 1, text => read text :: repeatedAt count (read text).rest

theorem repeated_eq {reader : Reader} (hsteady : reader.source.Steady) (count : Nat) :
    repeated count reader = repeatedAt count reader.source.rest := by
  induction count generalizing reader with
  | zero => rfl
  | succ count ih =>
      have hafter : reader.next.2.source.Steady :=
        invariant_consume Source.steady_invariant hsteady _ _
      rw [repeated, repeatedAt, ih hafter, rest_next hsteady]
      rfl

theorem repeatedAt_behindBlanks (count : Nat) (text : List Char) :
    repeatedAt count (behindBlanks text) = repeatedAt count text := by
  cases count with
  | zero => rfl
  | succ count => rw [repeatedAt, repeatedAt, read_congr (dropLayout_behindBlanks text)]

end Reader

namespace TopLevel

variable [RegexEngine]

def respond (reading : Reader.Reading (Option Value)) (state : State) : Outcome × State :=
  let state := { state with symbols := state.symbols.internAll reading.met, output := "" }
  match reading.outcome with
  | .error error => Outcome.ofError error state
  | .ok none => (.ended, state)
  | .ok (some datum) => evaluate datum state

/-- What comes of readings, up to the first behind which nothing more is read. -/
def respondAll : State → List (Reader.Reading (Option Value)) → List (Outcome × State)
  | _, [] => []
  | state, reading :: readings =>
      let result := respond reading state
      if result.1.isLast then [result] else result :: respondAll result.2 readings

theorem respond_not_blank (reading : Reader.Reading (Option Value)) (state : State) :
    (respond reading state).1.isBlank = false := by
  rw [respond]
  split
  · rfl
  · rfl
  · rw [evaluate]
    split <;> rfl

theorem respondAll_clear (state : State) (readings : List (Reader.Reading (Option Value))) :
    respondAll { state with output := "" } readings = respondAll state readings := by
  cases readings <;> rfl

theorem react_of_blank {text : List Char} (h : (Reader.dropBlankLine? text).isSome = true)
    (state : State) : react text state = (.blank, state) := by
  rw [react, if_pos h]

theorem react_of_not_blank {text : List Char} (h : (Reader.dropBlankLine? text).isSome = false)
    (state : State) :
    react text { state with output := "" } = respond (Reader.read text) state := by
  rw [react, if_neg (by simp [h]), Reader.read_congr (Reader.dropLayout_behindBlanks text)]
  rfl

theorem trace_unblank {steps count : Nat} {text : List Char} (hsteps : text.length < steps)
    (hcount : text.length < count) (state : State) :
    (trace steps state text).filter (fun result => !result.1.isBlank) =
      respondAll state (Reader.repeatedAt count text) := by
  induction steps generalizing count text state with
  | zero => exact absurd hsteps (Nat.not_lt_zero _)
  | succ steps ih =>
      obtain ⟨count, rfl⟩ : ∃ calls, count = calls + 1 := ⟨count - 1, by omega⟩
      rw [trace]
      cases hblank : (Reader.dropBlankLine? text).isSome with
      | true =>
          -- The line is passed over, and the same datum is read behind it.
          have hafter : textAfter text = Reader.behindBlanks text := by
            rw [textAfter, if_pos hblank]
          have hshorter : (Reader.behindBlanks text).length < text.length := by
            rw [← hafter]
            refine @textAfter_length_lt _ text state ?_
            rw [react_of_blank hblank]
            exact Outcome.noConfusion
          have hlater := ih (Nat.lt_of_lt_of_le hshorter (Nat.le_of_lt_succ hsteps))
            (Nat.lt_trans hshorter hcount) { state with output := "" }
          rw [Reader.repeatedAt_behindBlanks, respondAll_clear] at hlater
          rw [react_of_blank hblank, hafter]
          exact hlater
      | false =>
          have hafter : textAfter text = (Reader.read text).rest := by
            rw [textAfter, if_neg (by simp [hblank]),
              Reader.read_congr (Reader.dropLayout_behindBlanks text)]
          have hfirst := respond_not_blank (Reader.read text) state
          rw [react_of_not_blank hblank, Reader.repeatedAt, respondAll]
          split
          · rename_i hlast
            rw [List.filter_cons_of_pos (by simp [hfirst]), List.filter_nil]
          · rename_i hlast
            have hshorter : (Reader.read text).rest.length < text.length := by
              rw [← hafter]
              refine @textAfter_length_lt _ text { state with output := "" } ?_
              rw [react_of_not_blank hblank]
              intro hended
              rw [hended] at hlast
              exact hlast rfl
            have hlater := ih (Nat.lt_of_lt_of_le hshorter (Nat.le_of_lt_succ hsteps))
              (Nat.lt_of_lt_of_le hshorter (Nat.le_of_lt_succ hcount))
              (respond (Reader.read text) state).2
            rw [List.filter_cons_of_pos (by simp [hfirst]), hafter, hlater]

/-- What a search for a blank line tells, and what it takes: where it comes to a newline, nothing
but other whitespace stands before that, and only the text behind it is left. -/
def Searches (before after : List Char) (found : Bool) : Prop :=
  ∀ rest, found = true ∧ after = rest ↔ ∃ blanks, before = blanks ++ '\n' :: rest ∧
    ∀ c ∈ blanks, Reader.isWhitespace c = true ∧ c ≠ '\n'

omit [RegexEngine] in
theorem searches_behindBlanks (text : List Char) :
    Searches text (Reader.behindBlanks text) (Reader.dropBlankLine? text).isSome := by
  intro rest
  rw [← Reader.dropBlankLine?_eq_some_iff, Reader.behindBlanks]
  cases Reader.dropBlankLine? text with
  | none => simp
  | some behind => simp

structure Undisturbed (text : List Char) : Prop where
  readings : ∀ calls, Reader.readings calls { source := .ofText text } =
    Reader.readings (calls.filter Reader.Call.reads) { source := .ofText text }
  drawn : ∀ calls, (Reader.Tape.ofText text).readings? calls =
    some (Reader.readings (calls.filter Reader.Call.reads) { source := .ofText text })
  searches : ∀ calls, ∃ answers tape found after,
    (Reader.Tape.ofText text).answers? calls = some (answers, tape) ∧
      tape.answer? .skipBlankLine = some (.skipBlankLine found, after) ∧
        Searches tape.unread after.unread found
  /-- Blank lines apart, a loop does what comes of the readings one after the other. -/
  loops : ∀ reader : Reader, reader.source.Steady → reader.source.rest = text →
    ∀ turn, KeepsText turn → ∀ style state steps, text.length < steps →
      ((stagesFor turn style steps state reader).map Stage.result).filter
          (fun result => !result.1.isBlank) =
        respondAll state (reader.repeated (text.length + 1))

theorem probing_undisturbed (text : List Char) : Undisturbed text where
  readings calls :=
    Reader.readings_filter (Source.steady_ofText text) (Source.steady_ofText text) rfl calls
  drawn calls := by
    rw [(Reader.Tape.serves_ofText text).readings?_eq calls]
    exact congrArg some
      (Reader.readings_filter (Source.steady_ofText text) (Source.steady_ofText text) rfl calls)
  searches calls := by
    obtain ⟨tape, hanswers, hserves⟩ := (Reader.Tape.serves_ofText text).answers calls
    obtain ⟨after, hanswer, hafter⟩ := hserves.answer .skipBlankLine
    refine ⟨_, tape, _, after, hanswers, hanswer, ?_⟩
    rw [hserves.unread_eq, hafter.unread_eq, Reader.answer,
      Reader.rest_skipBlankLine hserves.reads.steady, Reader.skipBlankLine_fst]
    exact searches_behindBlanks _
  loops reader hsteady hrest turn hturn style state steps hsteps := by
    subst hrest
    rw [results_eq_trace hturn style steps state hsteady, Reader.repeated_eq hsteady]
    exact trace_unblank hsteps (Nat.lt_succ_self _) state

end TopLevel

end Lisplet
