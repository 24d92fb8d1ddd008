import Lisplet.Proofs.Reader.Progress
import Lisplet.Proofs.Source.Stream
import Lisplet.Reader.Stream

namespace Lisplet.Reader

/-! A reader leaves in its source what the reading of the source's text leaves, so that a call
depends on nothing but that text. -/

variable {reader : Reader}

theorem drop_length_sub {text rest : List Char} (h : rest <:+ text) :
    text.drop (text.length - rest.length) = rest := by
  obtain ⟨taken, rfl⟩ := h
  simp

theorem take_length_sub (front rest : List Char) :
    (front ++ rest).take ((front ++ rest).length - rest.length) = front := by
  simp

theorem drop_length_takeWhile (p : Char → Bool) (text : List Char) :
    text.drop (text.takeWhile p).length = text.dropWhile p := by
  induction text with
  | nil => rfl
  | cons c text ih => cases hc : p c <;> simp [hc, ih]

theorem rest_consume (hsteady : reader.source.Steady) {rest : List Char}
    (hrest : rest <:+ reader.source.rest) :
    (reader.consume reader.source.rest rest).source.rest = rest := by
  have hadvance := hsteady.rest_advance (reader.source.rest.length - rest.length)
  rw [drop_length_sub hrest] at hadvance
  rw [consume]
  dsimp only
  split
  · rw [(Source.steady_invariant.advance hsteady _).rest_probe, hadvance]
  · exact hadvance

theorem invariant_consume {P : Source → Prop} (hinvariant : Source.Invariant P)
    (hsource : P reader.source) (text rest : List Char) : P (reader.consume text rest).source := by
  have hadvance := hinvariant.advance hsource (text.length - rest.length)
  rw [consume]
  dsimp only
  split
  · exact hinvariant.probe hadvance
  · exact hadvance

theorem dropBlankLine?_eq_some {text rest : List Char} (h : dropBlankLine? text = some rest) :
    ∃ blanks, text = blanks ++ '\n' :: rest ∧ ∀ c ∈ blanks, isWhitespace c = true ∧ c ≠ '\n' := by
  induction text with
  | nil => cases h
  | cons c text ih =>
      rw [dropBlankLine?] at h
      split at h
      · rename_i hnewline
        cases h
        exact ⟨[], by rw [hnewline]; rfl, by simp⟩
      · rename_i hnewline
        split at h
        · rename_i hblank
          obtain ⟨blanks, rfl, hblanks⟩ := ih h
          exact ⟨c :: blanks, rfl, by simpa using ⟨⟨hblank, hnewline⟩, hblanks⟩⟩
        · cases h

theorem dropBlankLine?_length_lt {text rest : List Char} (h : dropBlankLine? text = some rest) :
    rest <:+ text ∧ rest.length < text.length := by
  obtain ⟨blanks, rfl, -⟩ := dropBlankLine?_eq_some h
  constructor
  · exact (List.suffix_cons '\n' rest).trans (List.suffix_append blanks _)
  · rw [List.length_append, List.length_cons]
    omega

/-- What is left behind a blank line, or else behind the whitespace that comes first. -/
def behindBlanks (text : List Char) : List Char :=
  (dropBlankLine? text).getD (text.dropWhile isWhitespace)

theorem behindBlanks_suffix (text : List Char) : behindBlanks text <:+ text := by
  rw [behindBlanks]
  cases h : dropBlankLine? text with
  | none => exact List.dropWhile_suffix _
  | some rest => exact (dropBlankLine?_length_lt h).1

theorem skipBlankLine_fst :
    reader.skipBlankLine.1 = (dropBlankLine? reader.source.rest).isSome := by
  rw [skipBlankLine]
  dsimp only
  split <;> simp_all

theorem rest_skipBlankLine (hsteady : reader.source.Steady) :
    reader.skipBlankLine.2.source.rest = behindBlanks reader.source.rest := by
  rw [skipBlankLine, behindBlanks]
  dsimp only
  split
  · rename_i rest hblank
    rw [hsteady.rest_advance, drop_length_sub (dropBlankLine?_length_lt hblank).1, hblank]
    rfl
  · rename_i hblank
    rw [(Source.steady_invariant.advance hsteady _).rest_probe, hsteady.rest_advance, hblank,
      Option.getD_none, drop_length_takeWhile]

theorem invariant_skipBlankLine {P : Source → Prop} (hinvariant : Source.Invariant P)
    (hsource : P reader.source) : P reader.skipBlankLine.2.source := by
  rw [skipBlankLine]
  dsimp only
  split
  · exact hinvariant.advance hsource _
  · exact hinvariant.probe (hinvariant.advance hsource _)

variable [RegexEngine]

theorem rest_next (hsteady : reader.source.Steady) :
    reader.next.2.source.rest = (read reader.source.rest).rest :=
  rest_consume hsteady (read_suffix _)

theorem rest_nextRequired (hsteady : reader.source.Steady) :
    reader.nextRequired.2.source.rest = (require reader.source.rest).rest :=
  rest_consume hsteady (require_suffix _)

def afterCalls : Nat → Reader → Reader
  | 0, reader => reader
  | count + 1, reader => afterCalls count reader.next.2

theorem exists_ended (hsteady : reader.source.Steady) :
    ∃ count ≤ reader.source.rest.length,
      (afterCalls count reader).next.1.outcome = .ok none ∧
        (afterCalls count reader).next.2.source.rest = [] := by
  generalize hlength : reader.source.rest.length = length
  induction length using Nat.strongRecOn generalizing reader with
  | ind length ih =>
      by_cases hlayout : OnlyLayout reader.source.rest
      · have hrest := rest_next hsteady
        rw [read_of_onlyLayout hlayout] at hrest
        exact ⟨0, Nat.zero_le _, read_eq_none_iff.mpr hlayout, hrest⟩
      · have hshorter := read_length_lt hlayout
        rw [← rest_next hsteady, hlength] at hshorter
        have hnext : reader.next.2.source.Steady :=
          invariant_consume Source.steady_invariant hsteady _ _
        obtain ⟨count, hcount, hended⟩ := ih _ hshorter hnext rfl
        exact ⟨count + 1, by omega, hended⟩

/-- What calls come to, from any place in a text. -/
structure Progress (reader : Reader) : Prop where
  /-- No run gets to the bottom of its layers, so that more of them make no difference. -/
  terminates : ∀ (bottom : Scanners) (depth : Nat), enough reader.source.rest ≤ depth →
    reader.nextRequired.1 = ((bottom.layers depth).datum .datum).run reader.source.rest
  none_iff : reader.next.1.outcome = .ok none ↔ OnlyLayout reader.source.rest
  missing_iff : reader.nextRequired.1.outcome = .error (.unexpectedEnd .datum) ↔
    OnlyLayout reader.source.rest
  layout : OnlyLayout reader.source.rest →
    reader.next.2.source.rest = [] ∧ reader.nextRequired.2.source.rest = []
  taken : ¬ OnlyLayout reader.source.rest →
    ∃ taken, taken ≠ [] ∧ reader.source.rest = taken ++ reader.next.2.source.rest
  /-- Where there is something to read, it makes no difference whether it must be there. -/
  same : ¬ OnlyLayout reader.source.rest →
    reader.next.1.outcome = reader.nextRequired.1.outcome.map some ∧
      reader.next.1.met = reader.nextRequired.1.met ∧ reader.next.2 = reader.nextRequired.2
  ended : ∃ count ≤ reader.source.rest.length,
    (afterCalls count reader).next.1.outcome = .ok none ∧
      (afterCalls count reader).next.2.source.rest = []

theorem progress (hsteady : reader.source.Steady) : reader.Progress where
  terminates bottom _ hdepth := require_eq_layers reader.source.rest bottom hdepth
  none_iff := read_eq_none_iff
  missing_iff := require_eq_missing_iff
  layout hlayout := by
    rw [rest_next hsteady, rest_nextRequired hsteady, read_of_onlyLayout hlayout,
      require_of_layout (dropLayout_eq_nil_iff.mpr hlayout)]
    exact ⟨rfl, rfl⟩
  taken hlayout := by
    rw [rest_next hsteady]
    obtain ⟨taken, htaken⟩ := read_suffix reader.source.rest
    refine ⟨taken, ?_, htaken.symm⟩
    rintro rfl
    have hshorter := read_length_lt hlayout
    rw [List.nil_append] at htaken
    rw [htaken] at hshorter
    exact Nat.lt_irrefl _ hshorter
  same hlayout := by
    have hread := read_of_not_onlyLayout hlayout
    refine ⟨congrArg Reading.outcome hread, congrArg Reading.met hread, ?_⟩
    exact congrArg (reader.consume reader.source.rest) (congrArg Reading.rest hread)
  ended := exists_ended hsteady

end Lisplet.Reader
