import Lisplet.Proofs.Source.Stream
import Lisplet.Proofs.Text.Lines

namespace Lisplet

namespace Line

def completed (text : List Char) : List Char :=
  if text = [] ∨ text.getLast? = some '\n' then text else text ++ ['\n']

def leadingText (bytes : List UInt8) : List Char :=
  ((allOfBytes bytes).takeWhile Option.isSome).flatMap fun line => (line.getD "").toList

end Line

namespace Source

/-! However its characters come in, a source answers like a text that is read by position, as long
as only the character taken last is put back. -/

inductive Call where
  | get
  | unget (c : Char)
  | resetPrompt

def answers : Source → List Call → List (Option Char)
  | _, [] => []
  | source, .get :: calls => source.get.1 :: source.get.2.answers calls
  | source, .unget c :: calls => (source.unget c).answers calls
  | source, .resetPrompt :: calls => source.resetPrompt.answers calls

/-- The place behind the character at an index; at the end there is none to go past. -/
def placeBehind (text : List Char) (index : Nat) : Nat :=
  if index < text.length then index + 1 else index

def answersAt (text : List Char) : Nat → List Call → List (Option Char)
  | _, [] => []
  | index, .get :: calls => text[index]? :: answersAt text (placeBehind text index) calls
  | index, .unget _ :: calls => answersAt text (index - 1) calls
  | index, .resetPrompt :: calls => answersAt text index calls

/-- Each character that is put back was delivered by the call to `get` just before. -/
def ReturnsLast (text : List Char) : Nat → Option Char → List Call → Prop
  | _, _, [] => True
  | index, _, .get :: calls => ReturnsLast text (placeBehind text index) text[index]? calls
  | index, delivered, .unget c :: calls =>
      delivered = some c ∧ ReturnsLast text (index - 1) none calls
  | index, delivered, .resetPrompt :: calls => ReturnsLast text index delivered calls

/-- The source is the text as far as such calls can tell. -/
def Delivers (source : Source) (text : List Char) : Prop :=
  ∀ calls, ReturnsLast text 0 none calls → source.answers calls = answersAt text 0 calls

theorem drop_placeBehind (text : List Char) (index : Nat) :
    text.drop (placeBehind text index) = (text.drop index).tail := by
  rw [placeBehind, List.tail_drop]
  split
  · rfl
  · rename_i hindex
    rw [List.drop_of_length_le (by omega), List.drop_of_length_le (by omega)]

theorem answers_eq_answersAt {source : Source} {text : List Char} {index : Nat}
    {delivered : Option Char} {calls : List Call} (hsteady : source.Steady)
    (hrest : source.rest = text.drop index)
    (hdelivered : ∀ c, delivered = some c → ∃ before, index = before + 1 ∧ text[before]? = some c)
    (hcalls : ReturnsLast text index delivered calls) :
    source.answers calls = answersAt text index calls := by
  induction calls generalizing source index delivered with
  | nil => rfl
  | cons call calls ih =>
      cases call with
      | get =>
          obtain ⟨hhead, htail⟩ := hsteady.get
          rw [hrest, List.head?_drop] at hhead
          rw [hrest, ← drop_placeBehind] at htail
          rw [answers, answersAt, hhead]
          congr 1
          refine ih (steady_invariant.get hsteady) htail ?_ hcalls
          intro c hc
          have hindex : index < text.length := (List.getElem?_eq_some_iff.mp hc).1
          exact ⟨index, if_pos hindex, hc⟩
      | unget c =>
          obtain ⟨hc, hlater⟩ := hcalls
          obtain ⟨before, rfl, hbefore⟩ := hdelivered c hc
          obtain ⟨hlength, rfl⟩ := List.getElem?_eq_some_iff.mp hbefore
          have hback : (source.unget text[before]).rest = text.drop before := by
            rw [rest_unget, hrest, List.drop_eq_getElem_cons hlength]
          refine ih (steady_invariant.buffer _ _ hsteady) hback ?_ hlater
          intro other hnone
          cases hnone
      | resetPrompt =>
          exact ih hsteady.resetPrompt ((rest_resetPrompt source).trans hrest) hdelivered hcalls

theorem Steady.delivers {source : Source} (h : source.Steady) : source.Delivers source.rest := by
  intro calls hcalls
  refine answers_eq_answersAt h rfl ?_ hcalls
  intro c hnone
  cases hnone

theorem deliver_prompted_cons {c : Char} {line : List Char} (hline : line ≠ [])
    (continuing : Bool) :
    deliver (.prompted continuing) (c :: line) = c :: deliver (.prompted continuing) line := by
  simp only [deliver, chomp, List.getLast?_cons_of_ne_nil hline]
  split
  · rw [List.dropLast_cons_of_ne_nil hline]
    rfl
  · rfl

theorem completed_cons {c : Char} {text : List Char} (htext : text ≠ []) :
    Line.completed (c :: text) = c :: Line.completed text := by
  simp only [Line.completed, htext, List.getLast?_cons_of_ne_nil htext, false_or,
    reduceCtorEq]
  split <;> rfl

theorem flatMap_deliver_ofText (text : List Char) (continuing : Bool) :
    (Line.ofText text).flatMap (deliver (.prompted continuing)) = Line.completed text := by
  induction text with
  | nil => rfl
  | cons c text ih =>
      by_cases hc : c = '\n'
      · subst hc
        have hline : deliver (.prompted continuing) ['\n'] = ['\n'] := rfl
        rw [Line.ofText_newline, List.flatMap_cons, hline, ih]
        cases text with
        | nil => rfl
        | cons next text =>
            rw [completed_cons (List.cons_ne_nil next text)]
            rfl
      · obtain ⟨rfl, hlines⟩ | ⟨line, lines, hline, htext, hlines, hcons⟩ :=
          Line.ofText_cons hc text
        · rw [hlines]
          simp [deliver, chomp, Line.completed, hc]
        · rw [hlines, List.flatMap_cons] at ih
          rw [hcons, List.flatMap_cons, deliver_prompted_cons hline, completed_cons htext, ← ih]
          rfl

theorem rest_of_texts (lines : List (List Char)) (supply : Supply) (prompts : String) :
    rest ⟨[], lines.map fun line => some (String.ofList line), supply, prompts⟩ =
      lines.flatMap (deliver supply) := by
  induction lines with
  | nil => rfl
  | cons line lines ih => simpa [rest] using ih

theorem rest_ofLines_text (text : String) :
    (ofLines (Line.allOfBytes text.toUTF8.data.toList)).rest = text.toList := by
  rw [Line.toList_toUTF8, Line.allOfBytes_encode, ofLines, rest_of_texts]
  calc
    (Line.ofText text.toList).flatMap (deliver .plain) = (Line.ofText text.toList).flatten := by
      rw [List.flatten_eq_flatMap]
      rfl
    _ = text.toList := Line.flatten_ofText _

theorem rest_prompted_text (text : String) :
    (prompted (Line.allOfBytes text.toUTF8.data.toList)).rest = Line.completed text.toList := by
  rw [Line.toList_toUTF8, Line.allOfBytes_encode, prompted, rest_of_texts, flatMap_deliver_ofText]

theorem steady_ofLines (bytes : List UInt8) : (ofLines (Line.allOfBytes bytes)).Steady :=
  ⟨Line.empty_not_mem_allOfBytes bytes, .inl rfl⟩

theorem steady_prompted_text (text : String) :
    (prompted (Line.allOfBytes text.toUTF8.data.toList)).Steady := by
  refine ⟨Line.empty_not_mem_allOfBytes _, .inr ?_⟩
  rw [Line.toList_toUTF8]
  exact Line.none_not_mem_allOfBytes_encode _

/-- A text at hand and its bytes line by line are the same stream, and so are its lines behind
prompts, but for a newline at the end. Bytes that are no text end the stream with the lines before
them. -/
theorem sources_deliver (text : String) (bytes : List UInt8) :
    (ofText text.toList).Delivers text.toList ∧
      (ofLines (Line.allOfBytes text.toUTF8.data.toList)).Delivers text.toList ∧
      (prompted (Line.allOfBytes text.toUTF8.data.toList)).Delivers (Line.completed text.toList) ∧
      (ofLines (Line.allOfBytes bytes)).Delivers (Line.leadingText bytes) := by
  have htext := (steady_ofText text.toList).delivers
  have hlines := (steady_ofLines text.toUTF8.data.toList).delivers
  have hprompted := (steady_prompted_text text).delivers
  rw [rest_ofText] at htext
  rw [rest_ofLines_text] at hlines
  rw [rest_prompted_text] at hprompted
  exact ⟨htext, hlines, hprompted, (steady_ofLines bytes).delivers⟩

/-- The first character of the second line is put back and taken again. -/
theorem sources_deliver_second_line :
    let calls := [.get, .get, .get, .unget 'b', .get, .get]
    ReturnsLast ['a', '\n', 'b'] 0 none calls ∧
      (ofLines (Line.allOfBytes "a\nb".toUTF8.data.toList)).answers calls =
        [some 'a', some '\n', some 'b', some 'b', none] := by
  intro calls
  have hcalls : ReturnsLast ['a', '\n', 'b'] 0 none calls := ⟨rfl, trivial⟩
  exact ⟨hcalls, (sources_deliver "a\nb" []).2.1 calls hcalls⟩

end Source

end Lisplet
