import Lisplet.Proofs.Reader.Tape.Calls

namespace Lisplet.Reader

/-! Looking for blank lines does not disturb reading: it takes nothing but whitespace, which the
next datum would have behind it anyway. -/

theorem dropBlankLine?_eq_some_iff {text rest : List Char} :
    dropBlankLine? text = some rest ↔
      ∃ blanks, text = blanks ++ '\n' :: rest ∧ ∀ c ∈ blanks, isWhitespace c = true ∧ c ≠ '\n' := by
  constructor
  · exact dropBlankLine?_eq_some
  · rintro ⟨blanks, rfl, hblanks⟩
    induction blanks with
    | nil => rfl
    | cons c blanks ih =>
        obtain ⟨⟨hblank, hnewline⟩, hothers⟩ := List.forall_mem_cons.mp hblanks
        rw [List.cons_append, dropBlankLine?, if_neg hnewline, if_pos hblank]
        exact ih hothers

theorem dropLayout_behindBlanks (text : List Char) :
    dropLayout false (behindBlanks text) = dropLayout false text := by
  induction text with
  | nil => rfl
  | cons c text ih =>
      by_cases hnewline : c = '\n'
      · subst hnewline
        rfl
      · cases hc : isWhitespace c with
        | true =>
            have hbehind : behindBlanks (c :: text) = behindBlanks text := by
              rw [behindBlanks, dropBlankLine?, if_neg hnewline, if_pos hc,
                List.dropWhile_cons_of_pos hc, behindBlanks]
            rw [hbehind, ih, dropLayout, if_neg Bool.false_ne_true, if_pos hc]
        | false =>
            have hbehind : behindBlanks (c :: text) = c :: text := by
              rw [behindBlanks, dropBlankLine?, if_neg hnewline, hc, if_neg Bool.false_ne_true,
                List.dropWhile_cons_of_neg (by simp [hc])]
              rfl
            rw [hbehind]

/-! What is read does not depend on layout in front of it. -/

variable [RegexEngine]

theorem require_congr {text text' : List Char}
    (h : dropLayout false text = dropLayout false text') : require text = require text' := by
  cases hvisible : dropLayout false text' with
  | nil => rw [require_of_layout (h.trans hvisible), require_of_layout hvisible]
  | cons c visible =>
      rw [require_of_visible (h.trans hvisible), require_of_visible hvisible]

theorem readMany_congr {fuel fuel' : Nat} {text text' : List Char} (hread : read text = read text')
    (hfuel : text.length < fuel) (hfuel' : text'.length < fuel') :
    readMany fuel text = readMany fuel' text' := by
  induction fuel generalizing fuel' text text' with
  | zero => exact absurd hfuel (Nat.not_lt_zero _)
  | succ fuel ih =>
      obtain ⟨fuel', rfl⟩ : ∃ steps, fuel' = steps + 1 := ⟨fuel' - 1, by omega⟩
      rw [readMany, readMany, hread]
      split
      · rfl
      · rfl
      · rename_i value rest met hvalue
        have hshorter := length_lt_of_read (congrArg Reading.outcome (hread.trans hvalue))
        have hshorter' := length_lt_of_read (congrArg Reading.outcome hvalue)
        rw [hread, hvalue] at hshorter
        rw [hvalue] at hshorter'
        rw [ih rfl (Nat.lt_of_lt_of_le hshorter (Nat.le_of_lt_succ hfuel))
          (Nat.lt_of_lt_of_le hshorter' (Nat.le_of_lt_succ hfuel'))]

theorem readAll_congr {text text' : List Char}
    (h : dropLayout false text = dropLayout false text') : readAll text = readAll text' :=
  readMany_congr (read_congr h) (Nat.lt_succ_self _) (Nat.lt_succ_self _)

/-! Calls that read, among calls that look for blank lines. -/

def Call.reads : Call → Bool
  | .skipBlankLine => false
  | .next | .nextRequired | .remaining => true

/-- The answers to the calls that read, each with what is left of the text behind it. -/
def readings : List Call → Reader → List (Answer × List Char)
  | [], _ => []
  | call :: calls, reader =>
      let first := reader.answer call
      if call.reads then (first.1, first.2.source.rest) :: readings calls first.2
      else readings calls first.2

def Call.at (text : List Char) : Call → Answer × List Char
  | .next => (.next (read text), (read text).rest)
  | .nextRequired => (.nextRequired (require text), (require text).rest)
  | .remaining => (.remaining (readAll text), (readAll text).rest)
  | .skipBlankLine => (.skipBlankLine (dropBlankLine? text).isSome, behindBlanks text)

theorem Call.at_congr {call : Call} (hcall : call.reads = true) {text text' : List Char}
    (h : dropLayout false text = dropLayout false text') : call.at text = call.at text' := by
  cases call with
  | next => rw [Call.at, Call.at, read_congr h]
  | nextRequired => rw [Call.at, Call.at, require_congr h]
  | remaining => rw [Call.at, Call.at, readAll_congr h]
  | skipBlankLine => cases hcall

section Reader

variable {reader : Reader}

theorem answer_eq_at (hsteady : reader.source.Steady) (call : Call) :
    (reader.answer call).1 = (call.at reader.source.rest).1 ∧
      (reader.answer call).2.source.rest = (call.at reader.source.rest).2 ∧
        (reader.answer call).2.source.Steady := by
  cases call with
  | next =>
      exact ⟨rfl, rest_next hsteady, invariant_consume Source.steady_invariant hsteady _ _⟩
  | nextRequired =>
      exact ⟨rfl, rest_nextRequired hsteady,
        invariant_consume Source.steady_invariant hsteady _ _⟩
  | remaining =>
      refine ⟨rfl, rest_consume hsteady (Tape.readMany_suffix _ _),
        invariant_consume Source.steady_invariant hsteady _ _⟩
  | skipBlankLine =>
      exact ⟨congrArg Answer.skipBlankLine skipBlankLine_fst, rest_skipBlankLine hsteady,
        invariant_skipBlankLine Source.steady_invariant hsteady⟩

/-- Readers before texts that differ in layout only. -/
theorem readings_filter {other : Reader} (hsteady : reader.source.Steady)
    (hother : other.source.Steady)
    (h : dropLayout false reader.source.rest = dropLayout false other.source.rest)
    (calls : List Call) :
    readings calls reader = readings (calls.filter Call.reads) other := by
  induction calls generalizing reader other with
  | nil => rfl
  | cons call calls ih =>
      obtain ⟨hanswer, hrest, hafter⟩ := answer_eq_at hsteady call
      cases hreads : call.reads with
      | false =>
          obtain rfl : call = .skipBlankLine := by
            cases call <;> first | rfl | cases hreads
          have hlayout : dropLayout false (reader.answer .skipBlankLine).2.source.rest =
              dropLayout false other.source.rest := by
            rw [hrest, Call.at, dropLayout_behindBlanks, h]
          exact ih hafter hother hlayout
      | true =>
          obtain ⟨hanswer', hrest', hafter'⟩ := answer_eq_at hother call
          have hsame := Call.at_congr hreads h
          have hlater := ih hafter hafter' (by rw [hrest, hrest', hsame])
          rw [List.filter_cons_of_pos hreads, readings, readings, hlater, hanswer, hanswer', hrest,
            hrest', hsame, if_pos hreads]

end Reader

namespace Tape

variable {text : List Char} {tape : Tape} {reader : Reader}

def readings? : List Call → Tape → Option (List (Answer × List Char))
  | [], _ => some []
  | call :: calls, tape => do
      let (answer, after) ← tape.answer? call
      let later ← readings? calls after
      return if call.reads then (answer, after.unread) :: later else later

theorem Serves.readings?_eq (h : Serves text tape reader) (calls : List Call) :
    tape.readings? calls = some (readings calls reader) := by
  induction calls generalizing tape reader with
  | nil => rfl
  | cons call calls ih =>
      obtain ⟨after, hanswer, hserves⟩ := h.answer call
      rw [readings?, hanswer]
      simp only [Option.bind_eq_bind, Option.bind_some, ih hserves, hserves.unread_eq]
      rfl

end Tape

end Lisplet.Reader
