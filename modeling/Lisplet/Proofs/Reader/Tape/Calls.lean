import Lisplet.Proofs.Reader.Joining
import Lisplet.Proofs.Reader.Tape.Datum

namespace Lisplet.Reader.Tape

section Readings

variable {text rest : List Char} {met : List Symbol} {steps : Nat}

def cameTo (reading : Reading α) (met : List Symbol) : EStateM.Result Error Cursor α :=
  ending reading.outcome ⟨reading.rest, reading.met.reverse ++ met⟩

/-- A call that is followed comes to an answer, at the place that its reading leaves. -/
theorem run?_eq {pull : Pull α} {reading : Reading α} {tape : Tape}
    (hpull : Follows text pull ⟨rest, []⟩ (cameTo reading [])) (hat : At text tape ⟨rest, met⟩) :
    ∃ after met, run? pull tape = some (reading, after) ∧ At text after ⟨reading.rest, met⟩ := by
  -- Each call has its own list of symbols, which are told in the order in which they were met.
  have hstart : At text { tape with met := [] } ⟨rest, []⟩ :=
    ⟨hat.text_eq, hat.place_le, hat.unread_eq, rfl, hat.line, hat.orderly⟩
  have hend := hpull _ hstart
  obtain ⟨outcome, left, added⟩ := reading
  rw [cameTo, List.append_nil] at hend
  rw [run?, EStateM.run]
  cases outcome with
  | error error =>
      obtain ⟨after, hrun, hafter⟩ := hend.exists_error
      rw [hrun]
      dsimp only
      rw [hafter.unread_eq, hafter.met_eq, List.reverse_reverse]
      exact ⟨after, _, rfl, hafter⟩
  | ok value =>
      obtain ⟨after, hrun, hafter⟩ := hend.exists_ok
      rw [hrun]
      dsimp only
      rw [hafter.unread_eq, hafter.met_eq, List.reverse_reverse]
      exact ⟨after, _, rfl, hafter⟩

variable [RegexEngine]

theorem framed_first? {fuel fuel' : Nat} (hfuel : rest.length ≤ fuel) (hle : fuel ≤ fuel') :
    Framed ⟨rest, met⟩ (first? fuel) (first? fuel') := by
  apply Framed.bind framed_takeVisible
  intro visible after hvisible _
  cases visible with
  | none => exact .pure none
  | some c =>
      have hafter : after.rest.length < fuel :=
        Nat.lt_of_lt_of_le (length_lt_of_takeVisible hvisible) hfuel
      exact .bind (framed_begins_fuel hafter hle c) fun _ _ _ _ => .pure _

theorem read_eq_first? (text : List Char) : read text = (first? text.length).run text := by
  cases hvisible : dropLayout false text with
  | nil =>
      have hfirst : first? text.length ⟨text, []⟩ = .ok none ⟨[], []⟩ :=
        bind_ok (takeVisible_of_nil hvisible [])
      rw [read_of_layout hvisible, Scan.run_of_ok hfirst]
      rfl
  | cons c visible =>
      have hdatum : datum (Reader.enough text) .datum ⟨text, []⟩ =
          Reader.begins (datum text.length) (Reader.list text.length []) c ⟨visible, []⟩ :=
        bind_ok (takeVisible_of_cons hvisible [])
      have hfirst : first? text.length ⟨text, []⟩ =
          (Reader.begins (datum text.length) (Reader.list text.length []) c >>=
            fun value => pure (some value)) ⟨visible, []⟩ :=
        bind_ok (takeVisible_of_cons hvisible [])
      rw [read_of_visible (by simp [hvisible]), require]
      cases hbegins : Reader.begins (datum text.length) (Reader.list text.length []) c
          ⟨visible, []⟩ with
      | ok value after =>
          rw [Scan.run_of_ok (hdatum.trans hbegins),
            Scan.run_of_ok (hfirst.trans (bind_ok hbegins))]
          rfl
      | error error after =>
          rw [Scan.run_of_error (hdatum.trans hbegins),
            Scan.run_of_error (hfirst.trans (bind_error hbegins))]
          rfl

theorem first?_eq {fuel : Nat} (hfuel : rest.length ≤ fuel) :
    first? fuel ⟨rest, met⟩ = cameTo (read rest) met := by
  obtain ⟨outcome, left, added, hframe⟩ := framed_first? (Nat.le_refl rest.length) hfuel
  have hdeeper := hframe.deepens [] met (.inl rfl)
  rw [List.append_nil, List.append_nil] at hdeeper
  rw [read_eq_first?, hframe.run, cameTo, List.reverse_reverse]
  exact hdeeper

theorem follows_seek (hsteps : rest.length < steps) :
    Follows text (seek steps) ⟨rest, met⟩ (cameTo (read rest) met) := by
  rw [← first?_eq (Nat.le_refl rest.length)]
  exact (seeks_lists text steps).1 rest.length ⟨rest, met⟩ hsteps (Nat.le_refl _)

theorem follows_required (hsteps : rest.length < steps) :
    Follows text (seek steps >>= orMissing .datum) ⟨rest, []⟩ (cameTo (require rest) []) := by
  have hrequire : datum (Reader.enough rest) .datum ⟨rest, []⟩ = cameTo (require rest) [] := by
    obtain ⟨outcome, left, added, hframe⟩ := framed_datum_enough rest []
    rw [require, hframe.run, cameTo, List.reverse_reverse]
    exact hframe.scans
  rw [← hrequire]
  exact (seeks_lists text steps).1.follows_required .datum hsteps (Nat.lt_succ_self _)

theorem follows_all {fuel : Nat} (hsteps : rest.length < steps) (hfuel : rest.length < fuel) :
    Follows text (all steps) ⟨rest, met⟩ (cameTo (readMany fuel rest) met) := by
  induction steps generalizing fuel rest met with
  | zero => exact absurd hsteps (Nat.not_lt_zero _)
  | succ steps ih =>
      obtain ⟨fuel, rfl⟩ : ∃ below, fuel = below + 1 := ⟨fuel - 1, by omega⟩
      have hfirst := @follows_seek text rest met _ _ hsteps
      rw [readMany]
      cases hread : read rest with
      | mk outcome left added =>
          rw [hread] at hfirst
          cases outcome with
          | error error => exact hfirst.error_bind
          | ok first =>
              cases first with
              | none => exact hfirst.ok_bind (.pure [] _)
              | some value =>
                  have hshorter : left.length < rest.length := by
                    have houtcome : (read rest).outcome = .ok (some value) := by rw [hread]
                    have hlength := length_lt_of_read houtcome
                    rwa [hread] at hlength
                  have hmore := @ih left (added.reverse ++ met) fuel (by omega) (by omega)
                  apply hfirst.ok_bind
                  dsimp only
                  cases hmany : readMany fuel left with
                  | mk outcome last later =>
                      rw [hmany] at hmore
                      rw [cameTo, List.reverse_append, List.append_assoc]
                      cases outcome with
                      | error error => exact hmore.error_bind
                      | ok values => exact hmore.ok_bind (.pure _ _)

end Readings

theorem lineStartAfter_append (before : Bool) (front taken : List Char) :
    lineStartAfter (lineStartAfter before front) taken =
      lineStartAfter before (front ++ taken) := by
  obtain rfl | ⟨taken, c, rfl⟩ := List.eq_nil_or_concat taken
  · rw [List.append_nil]
    rfl
  · rw [List.concat_eq_append, ← List.append_assoc, lineStartAfter_concat, lineStartAfter_concat]

structure Reads (text : List Char) (reader : Reader) : Prop where
  steady : reader.source.Steady
  line : ∃ front, text = front ++ reader.source.rest ∧
    reader.atLineStart = lineStartAfter true front

section Calls

variable {text : List Char} {reader : Reader} {tape : Tape}

theorem Reads.consume (h : Reads text reader) {rest : List Char}
    (hrest : rest <:+ reader.source.rest) :
    Reads text (reader.consume reader.source.rest rest) := by
  obtain ⟨hsteady, front, htext, hline⟩ := h
  obtain ⟨taken, htaken⟩ := hrest
  refine ⟨invariant_consume Source.steady_invariant hsteady _ _, front ++ taken, ?_, ?_⟩
  · rw [rest_consume hsteady ⟨taken, htaken⟩, List.append_assoc, htaken, htext]
  · have htake := take_length_sub taken rest
    rw [htaken] at htake
    rw [← lineStartAfter_append, ← hline, ← htake]
    rfl

theorem Reads.skipBlankLine (h : Reads text reader) : Reads text reader.skipBlankLine.2 := by
  obtain ⟨hsteady, front, htext, hline⟩ := h
  have hrest := rest_skipBlankLine hsteady
  refine ⟨invariant_skipBlankLine Source.steady_invariant hsteady, ?_⟩
  cases hblank : dropBlankLine? reader.source.rest with
  | some rest =>
      obtain ⟨blanks, hblanks, -⟩ := dropBlankLine?_eq_some hblank
      refine ⟨front ++ blanks ++ ['\n'], ?_, ?_⟩
      · rw [hrest, behindBlanks, hblank, htext, hblanks]
        simp
      · rw [lineStartAfter_concat, Reader.skipBlankLine]
        simp [hblank]
  | none =>
      refine ⟨front ++ reader.source.rest.takeWhile isWhitespace, ?_, ?_⟩
      · rw [hrest, behindBlanks, hblank, Option.getD_none, List.append_assoc,
          List.takeWhile_append_dropWhile, htext]
      · rw [← lineStartAfter_append, ← hline, Reader.skipBlankLine]
        simp [hblank]

structure Serves (text : List Char) (tape : Tape) (reader : Reader) : Prop where
  reads : Reads text reader
  at_rest : ∃ met, At text tape ⟨reader.source.rest, met⟩

theorem Serves.unread_eq (h : Serves text tape reader) : tape.unread = reader.source.rest := by
  obtain ⟨_, hat⟩ := h.at_rest
  exact hat.unread_eq

theorem serves_ofText (text : List Char) :
    Serves text (ofText text) { source := .ofText text } where
  reads := ⟨Source.steady_ofText text, [], by simp, rfl⟩
  at_rest := ⟨[], rfl, Nat.zero_le _, by simp [unread, ofText], rfl, rfl, trivial⟩

/-- Where a tape has come to in a text. -/
structure Disciplined (text : List Char) (tape : Tape) : Prop where
  place : tape.text = text ∧ tape.place ≤ text.length
  /-- Each character that was put back is the one drawn by the access just before. -/
  orderly : Orderly tape.accesses
  line : tape.lineStart = true ↔
    text.take tape.place = [] ∨ (text.take tape.place).getLast? = some '\n'

theorem At.disciplined {cursor : Cursor} (h : At text tape cursor) : Disciplined text tape := by
  obtain ⟨rfl, hplace, -, -, hline, horderly⟩ := h
  refine ⟨⟨rfl, hplace⟩, horderly, ?_⟩
  rw [hline, lineStartAfter]
  cases hlast : (tape.text.take tape.place).getLast? with
  | none => simpa using List.getLast?_eq_none_iff.mp hlast
  | some c =>
      have hsome : tape.text.take tape.place ≠ [] := by
        intro hnil
        simp [hnil] at hlast
      simp [hsome]

variable [RegexEngine]

theorem readMany_suffix (fuel : Nat) (text : List Char) : (readMany fuel text).rest <:+ text := by
  induction fuel generalizing text with
  | zero => exact List.suffix_refl _
  | succ fuel ih =>
      have hsuffix := read_suffix text
      rw [readMany]
      split
      · rename_i hread
        rwa [hread] at hsuffix
      · rename_i hread
        rwa [hread] at hsuffix
      · rename_i hread
        rw [hread] at hsuffix
        exact (ih _).trans hsuffix

theorem Serves.answer (h : Serves text tape reader) (call : Call) :
    ∃ after, tape.answer? call = some ((reader.answer call).1, after) ∧
      Serves text after (reader.answer call).2 := by
  obtain ⟨hreads, met, hat⟩ := h
  have hsteps : reader.source.rest.length < tape.enough := by
    rw [enough, hat.unread_eq]
    exact Nat.lt_succ_self _
  have hsteady := hreads.steady
  cases call with
  | next =>
      obtain ⟨after, met, hrun, hafter⟩ := run?_eq (follows_seek hsteps) hat
      rw [answer?, hrun]
      refine ⟨after, rfl, hreads.consume (read_suffix _), met, ?_⟩
      rw [← rest_next hsteady] at hafter
      exact hafter
  | nextRequired =>
      obtain ⟨after, met, hrun, hafter⟩ := run?_eq (follows_required hsteps) hat
      rw [answer?, hrun]
      refine ⟨after, rfl, hreads.consume (require_suffix _), met, ?_⟩
      rw [← rest_nextRequired hsteady] at hafter
      exact hafter
  | remaining =>
      have hfuel : reader.source.rest.length < Reader.enough reader.source.rest :=
        Nat.lt_succ_self _
      obtain ⟨after, met, hrun, hafter⟩ := run?_eq (follows_all hsteps hfuel) hat
      have hsuffix := readMany_suffix (Reader.enough reader.source.rest) reader.source.rest
      rw [answer?, hrun]
      refine ⟨after, rfl, hreads.consume hsuffix, met, ?_⟩
      rw [← rest_consume hsteady hsuffix] at hafter
      exact hafter
  | skipBlankLine =>
      obtain ⟨after, hrun, hafter⟩ := (follows_skipBlankLine hsteps tape hat).exists_ok
      rw [answer?, EStateM.run, hrun, ← skipBlankLine_fst]
      refine ⟨after, rfl, hreads.skipBlankLine, met, ?_⟩
      rw [← rest_skipBlankLine hsteady] at hafter
      exact hafter

theorem Serves.answers (h : Serves text tape reader) (calls : List Call) :
    ∃ after, tape.answers? calls = some ((reader.answers calls).1, after) ∧
      Serves text after (reader.answers calls).2 := by
  induction calls generalizing tape reader with
  | nil => exact ⟨tape, rfl, h⟩
  | cons call calls ih =>
      obtain ⟨middle, hfirst, hmiddle⟩ := h.answer call
      obtain ⟨after, hlater, hafter⟩ := ih hmiddle
      refine ⟨after, ?_, hafter⟩
      rw [answers?, hfirst]
      simp only [Option.bind_eq_bind, Option.bind_some]
      rw [hlater]
      rfl

/-- No sequence of calls, whether they fail or not, puts back anything but the character drawn just
before, so that there is always a character to be put back. The calls get their answers at the same
places as from a reader that does not look at single characters, and each leaves the reader at the
start of a line exactly if nothing was taken yet or the last character taken is a newline. -/
theorem calls_disciplined (text : List Char) (calls : List Call) :
    let read := Reader.answers calls { source := .ofText text }
    ∃ tape, (ofText text).answers? calls = some (read.1, tape) ∧ Disciplined text tape ∧
      tape.unread = read.2.source.rest ∧ tape.lineStart = read.2.atLineStart := by
  intro read
  obtain ⟨tape, hanswers, ⟨-, front, htext, hline⟩, met, hat⟩ := (serves_ofText text).answers calls
  refine ⟨tape, hanswers, hat.disciplined, hat.unread_eq, ?_⟩
  have htaken : tape.text.take tape.place = front := by
    have hwhole := List.take_append_drop tape.place tape.text
    rw [← unread, hat.unread_eq, hat.text_eq] at hwhole
    rw [hat.text_eq]
    exact List.append_cancel_right (hwhole.trans htext)
  rw [hat.line, htaken]
  exact hline.symm

end Calls

end Lisplet.Reader.Tape
