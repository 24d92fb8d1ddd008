import Lisplet.Proofs.Source.Watch
import Lisplet.Proofs.TopLevel.Agreement
import Lisplet.Regex.PatternEngine

namespace Lisplet

/-! Which prompt a line gets. A watch goes along with each step of the loop with prompts, so that
`consume`, `skipBlankLine`, `next` and `step` are those of the reader and of the loop. -/

namespace Source.Watch

def consume (watch : Watch) (text rest : List Char) : Watch :=
  let after := watch.advance (text.length - rest.length)
  if rest = [] then after.probe else after

def skipBlankLine (watch : Watch) : Watch :=
  let text := watch.source.rest
  match Reader.dropBlankLine? text with
  | some rest => watch.advance (text.length - rest.length)
  | none => (watch.advance (text.takeWhile Reader.isWhitespace).length).probe

def start (source : Source) : Watch where
  source

theorem Invariant.consume {P : Watch → Prop} (h : Invariant P) {watch : Watch} (hwatch : P watch)
    (text rest : List Char) : P (watch.consume text rest) := by
  rw [Watch.consume]
  split
  · exact h.probe _ (h.advance hwatch _)
  · exact h.advance hwatch _

theorem Invariant.skipBlankLine {P : Watch → Prop} (h : Invariant P) {watch : Watch}
    (hwatch : P watch) : P watch.skipBlankLine := by
  rw [Watch.skipBlankLine]
  split
  · exact h.advance hwatch _
  · exact h.probe _ (h.advance hwatch _)

theorem source_skipBlankLine (reader : Reader) :
    (start reader.source).skipBlankLine.source = reader.skipBlankLine.2.source := by
  cases hblank : Reader.dropBlankLine? reader.source.rest with
  | none => simp [skipBlankLine, Reader.skipBlankLine, start, hblank, probe]
  | some rest => simp [skipBlankLine, Reader.skipBlankLine, start, hblank]

theorem consume_eq {watch : Watch} (htidy : watch.source.Tidy) {front rest : List Char}
    (htext : watch.source.rest = front ++ rest) (hfront : front ≠ []) :
    (watch.consume (front ++ rest) rest).taken = watch.taken ++ front ∧
      ((watch.consume (front ++ rest) rest).source.buffer = [] ↔
        front.getLast? = some '\n') := by
  obtain ⟨htaken, hafter, hleft, hline⟩ := advance_eq htidy htext
  have hcount : (front ++ rest).length - rest.length = front.length := by simp
  rw [consume, hcount]
  split
  · rename_i hrest
    rw [hrest] at hleft
    have hempty := (List.append_eq_nil_iff.mp hleft).1
    have hbuffer := hafter.filled_buffer hleft
    rw [← probe_eq_filled] at hbuffer
    exact ⟨htaken, fun _ => (hline hfront).mp hempty, fun _ => hbuffer⟩
  · exact ⟨htaken, hline hfront⟩

variable [RegexEngine]

def next (watch : Watch) : Watch :=
  watch.consume watch.source.rest (Reader.read watch.source.rest).rest

def step (watch : Watch) : Watch :=
  if (Reader.dropBlankLine? watch.source.rest).isSome then watch.skipBlankLine
  else watch.skipBlankLine.next

theorem Invariant.step {P : Watch → Prop} (h : Invariant P) {watch : Watch} (hwatch : P watch) :
    P watch.step := by
  rw [Watch.step]
  split
  · exact h.skipBlankLine hwatch
  · exact h.consume (h.skipBlankLine hwatch) _ _

theorem source_next (watch : Watch) (atLineStart : Bool) :
    watch.next.source = (Reader.next ⟨watch.source, atLineStart⟩).2.source := by
  rw [next, consume, Reader.next, Reader.apply, Reader.consume]
  dsimp only
  split
  · rw [probe, source_advance]
  · exact source_advance _ _

theorem source_step (reader : Reader) :
    (start reader.source).step.source = (TopLevel.readerAfter reader).source := by
  rw [step, TopLevel.readerAfter, Reader.skipBlankLine_fst]
  change (if (Reader.dropBlankLine? reader.source.rest).isSome then _ else _ : Watch).source = _
  split
  · exact source_skipBlankLine reader
  · rw [source_next, source_skipBlankLine]

end Source.Watch

namespace TopLevel

open Source (Watch)

theorem lineStartAfter_iff {before : Bool} {taken : List Char} (htaken : taken ≠ []) :
    Reader.lineStartAfter before taken = true ↔ taken.getLast? = some '\n' := by
  rw [Reader.lineStartAfter, List.getLast?_eq_some_getLast htaken]
  simp

section Step

variable {state : State} {reader : Reader}

theorem blank_takes (htidy : reader.source.Tidy) {rest : List Char}
    (hblank : Reader.dropBlankLine? reader.source.rest = some rest) :
    (Watch.start reader.source).skipBlankLine.taken ≠ [] ∧
      reader.skipBlankLine.2.atLineStart = true ∧
      (Watch.start reader.source).skipBlankLine.source.buffer = [] := by
  obtain ⟨blanks, htext, -⟩ := Reader.dropBlankLine?_eq_some hblank
  have hfront : (Watch.start reader.source).source.rest = (blanks ++ ['\n']) ++ rest := by
    rw [List.append_assoc]
    exact htext
  have hcount : reader.source.rest.length - rest.length = (blanks ++ ['\n']).length := by
    rw [htext, List.length_append, List.length_append, List.length_cons, List.length_singleton]
    omega
  have hskipped : (Watch.start reader.source).skipBlankLine =
      (Watch.start reader.source).advance (blanks ++ ['\n']).length := by
    rw [← hcount]
    simp [Watch.skipBlankLine, Watch.start, hblank]
  obtain ⟨htaken, -, -, hline⟩ := Watch.advance_eq htidy hfront
  rw [hskipped, htaken]
  refine ⟨by simp [Watch.start], ?_, (hline (by simp)).mpr (by simp)⟩
  simp [Reader.skipBlankLine, hblank]

variable [RegexEngine]

theorem step_of_onlyLayout (hblank : Reader.dropBlankLine? reader.source.rest = none)
    (hlayout : Reader.OnlyLayout reader.skipBlankLine.2.source.rest) :
    (step state reader).1 = .ended := by
  have hskipped := @Reader.skipBlankLine_fst reader
  have hread : reader.skipBlankLine.2.next.1.outcome = .ok none :=
    Reader.read_eq_none_iff.mpr hlayout
  rw [hblank] at hskipped
  rw [step]
  cases hafter : reader.skipBlankLine with
  | mk skipped after =>
      rw [hafter] at hskipped hread
      rw [show skipped = false from hskipped]
      simp [hread]

theorem next_takes {watch : Watch} (htidy : watch.source.Tidy) (before : Bool)
    (hread : ¬ Reader.OnlyLayout watch.source.rest) :
    watch.next.taken ≠ [] ∧ ((Reader.next ⟨watch.source, before⟩).2.atLineStart = true ↔
      watch.next.source.buffer = []) := by
  obtain ⟨front, hfront⟩ := Reader.read_suffix watch.source.rest
  have hshorter := Reader.read_length_lt hread
  have hnonempty : front ≠ [] := by
    intro hnil
    rw [hnil, List.nil_append] at hfront
    rw [hfront] at hshorter
    exact Nat.lt_irrefl _ hshorter
  obtain ⟨htaken, hline⟩ := Watch.consume_eq htidy hfront.symm hnonempty
  rw [hfront] at htaken hline
  have hstart : (Reader.next ⟨watch.source, before⟩).2.atLineStart =
      Reader.lineStartAfter before front := by
    have htake := Reader.take_length_sub front (Reader.read watch.source.rest).rest
    rw [hfront] at htake
    exact congrArg (Reader.lineStartAfter before) htake
  rw [Watch.next, htaken, hline, hstart, lineStartAfter_iff hnonempty]
  exact ⟨by simp [hnonempty], Iff.rfl⟩

/-- A step that is not the last one takes something, and then the reader is at the start of a line
exactly if no character of a line is held. -/
theorem step_takes (hsound : (Watch.start reader.source).Sound)
    (hlast : (step state reader).1.isLast = false) :
    (Watch.start reader.source).step.taken ≠ [] ∧
      ((readerAfter reader).atLineStart = true ↔ (readerAfter reader).source.buffer = []) := by
  rw [← Watch.source_step, Watch.step, readerAfter, Reader.skipBlankLine_fst, Watch.start]
  dsimp only
  cases hblank : Reader.dropBlankLine? reader.source.rest with
  | some rest =>
      obtain ⟨htaken, hstart, hbuffer⟩ := blank_takes hsound.tidy hblank
      exact ⟨htaken, fun _ => hbuffer, fun _ => hstart⟩
  | none =>
      have hskipped := (Watch.sound_invariant.skipBlankLine hsound).tidy
      have hread : ¬ Reader.OnlyLayout (Watch.start reader.source).skipBlankLine.source.rest := by
        intro hlayout
        rw [Watch.source_skipBlankLine] at hlayout
        rw [step_of_onlyLayout hblank hlayout] at hlast
        cases hlast
      have hnext := next_takes hskipped reader.skipBlankLine.2.atLineStart hread
      rw [Watch.source_skipBlankLine] at hnext
      exact hnext

theorem sound_promptAgain {style : Style} (hsound : (Watch.start reader.source).Sound)
    (hlast : (stage style state reader).outcome.isLast = false) :
    (Watch.start (promptAgain (stage style state reader).reader).source).Sound := by
  obtain ⟨htaken, hstart⟩ := step_takes hsound hlast
  have hafter := Watch.sound_invariant.step hsound
  have htidy := hafter.tidy
  have hcontinuing := hafter.continuing htaken
  rw [Watch.source_step] at htidy hcontinuing
  rw [stage_reader, promptAgain]
  dsimp only
  split
  · rename_i hline
    -- Nothing of a line is held, so the prompt that is set here is the one of the next request.
    have hbuffer := hstart.mp hline
    have hreset : (readerAfter reader).source.clearPrompts.resetPrompt =
        { (readerAfter reader).source with supply := .prompted false, prompts := "" } := by
      simp [Source.resetPrompt, Source.clearPrompts, hcontinuing]
    rw [Reader.resetPrompt, hreset]
    exact ⟨⟨Supply.noConfusion, htidy.lines, htidy.buffer, absurd hbuffer⟩, absurd rfl,
      fun _ _ => rfl, List.forall_mem_nil _⟩
  · rename_i hline
    have hbuffer := mt hstart.mpr hline
    exact ⟨⟨htidy.prompted, htidy.lines, htidy.buffer, htidy.continuing⟩, absurd rfl,
      fun _ hnil => absurd hnil hbuffer, List.forall_mem_nil _⟩

end Step

theorem prompts_promptAgain (reader : Reader) :
    (promptAgain reader).source.prompts = reader.source.prompts := by
  rw [promptAgain]
  split
  · exact Source.prompts_resetPrompt reader.source
  · rfl

theorem sound_prompted (bytes : List UInt8) :
    (Watch.start (.prompted (Line.allOfBytes bytes))).Sound where
  tidy := ⟨Supply.noConfusion, fun _ => Line.newline_not_mem_dropLast, .inl rfl, absurd rfl⟩
  continuing := absurd rfl
  waiting _ _ := rfl
  lawful := nofun

section

variable [RegexEngine]

/-- A watch over each step, set when the step begins. -/
def watchesFor (style : Style) : Nat → State → Reader → List Watch
  | 0, _, _ => []
  | steps + 1, state, reader =>
      let stage := stage style state reader
      let watch := (Watch.start reader.source).step
      if stage.outcome.isLast then [watch]
      else watch :: watchesFor style steps stage.state (promptAgain stage.reader)

def promptWatches (style : Style) (state : State) (source : Source) : List Watch :=
  watchesFor style (enough source) state { source }

theorem prompts_stage (style : Style) {state : State} {reader : Reader}
    (hprompts : reader.source.prompts = "") :
    (stage style state reader).events.filter Event.isPrompt =
      [.prompt (Watch.start reader.source).step.written] := by
  have haccounts : (Watch.start reader.source).Accounts "" := hprompts
  have hafter := (Watch.accounts_invariant "").step haccounts
  rw [Watch.Accounts, Watch.source_step, String.empty_append] at hafter
  rw [stage_events, step_reader, hafter]
  rfl

theorem prompts_stagesFor (style : Style) (steps : Nat) (state : State) {reader : Reader}
    (hprompts : reader.source.prompts = "") :
    ((stagesFor promptAgain style steps state reader).flatMap Stage.events).filter Event.isPrompt =
      (watchesFor style steps state reader).map fun watch => .prompt watch.written := by
  induction steps generalizing state reader with
  | zero => rfl
  | succ steps ih =>
      rw [stagesFor, watchesFor]
      split
      · rw [List.flatMap_singleton, prompts_stage style hprompts]
        rfl
      · have hnext : (promptAgain (stage style state reader).reader).source.prompts = "" :=
          prompts_promptAgain _
        rw [List.flatMap_cons, List.filter_append, prompts_stage style hprompts, ih _ hnext]
        rfl

theorem lawful_watchesFor (style : Style) (steps : Nat) (state : State) {reader : Reader}
    (hsound : (Watch.start reader.source).Sound) :
    ∀ watch ∈ watchesFor style steps state reader, ∀ fetch ∈ watch.fetches, fetch.Lawful := by
  induction steps generalizing state reader with
  | zero => exact nofun
  | succ steps ih =>
      have hstep := (Watch.sound_invariant.step hsound).lawful
      intro watch hwatch
      rw [watchesFor] at hwatch
      split at hwatch
      · rw [List.mem_singleton.mp hwatch]
        exact hstep
      · rename_i hlast
        rw [Bool.not_eq_true] at hlast
        cases hwatch with
        | head => exact hstep
        | tail _ hlater => exact ih _ (sound_promptAgain hsound hlast) watch hlater

/-- For every standard input, each line is asked for with the primary prompt if nothing was taken
since the last outcome, and otherwise with the secondary one; so it is in the middle of a form, and
also behind a comment. -/
theorem prompts_follow_taken (style : Style) (state : State) (bytes : List UInt8) :
    let source := Source.prompted (Line.allOfBytes bytes)
    let watches := promptWatches style state source
    (prompt style state source).1.filter Event.isPrompt =
        (watches.map fun watch => .prompt watch.written) ++
          closingOf (promptStages style state source) ∧
      ∀ watch ∈ watches, ∀ fetch ∈ watch.fetches,
        fetch.Lawful ∧
          (¬ Reader.OnlyLayout fetch.taken → fetch.prompt = Source.secondaryPrompt) := by
  intro source watches
  have hclosing : (closingOf (promptStages style state source)).filter Event.isPrompt =
      closingOf (promptStages style state source) := by
    rw [closingOf]
    cases (promptStages style state source).getLast? with
    | none => rfl
    | some last => cases houtcome : last.outcome <;> simp [closing, houtcome, Event.isPrompt]
  constructor
  · rw [prompt_eq, List.filter_append, hclosing]
    exact congrArg (· ++ _) (prompts_stagesFor style _ state rfl)
  · intro watch hwatch fetch hfetch
    have hlawful := lawful_watchesFor style _ state (sound_prompted bytes) watch hwatch fetch hfetch
    refine ⟨hlawful, fun htaken => ?_⟩
    have hsome : fetch.taken ≠ [] := by
      intro hnil
      rw [hnil] at htaken
      exact htaken (.blank rfl .nil)
    rw [hlawful, if_neg hsome]

end

open scoped Pattern

/-- Behind a line with only a comment on it no form is in progress, and yet the next line is asked
for with the secondary prompt. -/
theorem comment_line_continues :
    let source := Source.prompted (Line.allOfBytes "; c\n1\n".toUTF8.data.toList)
    let fetches := (promptWatches ⟨true, false⟩ (State.initial .empty) source).flatMap Watch.fetches
    (⟨"; c\n".toList, Source.secondaryPrompt⟩ : Source.Fetch) ∈ fetches ∧
      Reader.OnlyLayout "; c\n".toList ∧ Source.secondaryPrompt ≠ Source.primaryPrompt ∧
      (prompt ⟨true, false⟩ (State.initial .empty) source).1.output =
        "roughcut> => 1\nroughcut> roughcut> \n" := by
  have hlines : Line.allOfBytes "; c\n1\n".toUTF8.data.toList =
      [some "; c\n", some "1\n"] := by decide +kernel
  have hcomment : Reader.OnlyLayout "; c\n".toList :=
    .comment [' ', 'c'] (by decide) (.blank rfl .nil)
  rw [hlines]
  exact ⟨by decide +kernel, hcomment, by decide, by decide +kernel⟩

end TopLevel

end Lisplet
