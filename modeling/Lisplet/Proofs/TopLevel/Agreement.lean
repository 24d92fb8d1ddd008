import Mathlib.Data.List.Forall2
import Lisplet.Proofs.Source.Schedule
import Lisplet.Proofs.TopLevel.Loop
import Lisplet.Regex.PatternEngine

namespace Lisplet.TopLevel

/-! A loop with prompts and one without go through the same steps, because both are given by the
text that their sources hold. -/

theorem length_deliver_le (supply : Supply) (line : List Char) :
    (Source.deliver supply line).length ≤ line.length + 1 := by
  cases supply with
  | plain => exact Nat.le_succ _
  | prompted continuing =>
      rw [Source.deliver, Source.chomp]
      split <;> simp

theorem length_delivered_le (supply : Supply) (lines : List Line) :
    ((lines.takeWhile Option.isSome).flatMap
        fun line => Source.deliver supply (line.getD "").toList).length ≤
      (lines.map fun line => (line.getD "").length + 2).foldl (· + ·) 0 := by
  rw [← List.sum_eq_foldl]
  induction lines with
  | nil => exact Nat.zero_le _
  | cons line lines ih =>
      cases line with
      | none => exact Nat.zero_le _
      | some text =>
          have hline := length_deliver_le supply text.toList
          rw [String.length_toList] at hline
          simp only [List.takeWhile_cons, Option.isSome_some, if_pos, List.flatMap_cons,
            List.length_append, List.map_cons, List.sum_cons, Option.getD_some]
          omega

theorem length_rest_lt_enough (source : Source) : source.rest.length < enough source := by
  have hlines := length_delivered_le source.supply source.lines
  rw [Source.rest, List.length_append, enough]
  omega

def Event.isPrompt : Event → Bool
  | .prompt _ => true
  | _ => false

def Transcript.unprompted (transcript : Transcript) : Transcript :=
  transcript.filter fun event => !event.isPrompt

theorem unprompted_append (transcript later : Transcript) :
    Transcript.unprompted (transcript ++ later) = transcript.unprompted ++ later.unprompted :=
  List.filter_append transcript later

def shown (style : Style) (result : Outcome × State) : Transcript :=
  [.printed result.2.output, .result (resultText style result.2.names result.1),
    .failure (failureText style result.2.names result.1)]

theorem unprompted_closingOf (stages : List Stage) :
    Transcript.unprompted (closingOf stages) = [] := by
  rw [closingOf]
  cases stages.getLast? with
  | none => rfl
  | some last =>
      rw [Option.map_some, Option.getD_some]
      cases last.outcome <;> rfl

theorem finalState_eq (state : State) (stages : List Stage) :
    finalState state stages = (stages.map Stage.result).foldl (fun _ result => result.2) state := by
  rw [List.foldl_map]
  rfl

theorem join_unprompted {text : Event → String} (hprompt : ∀ prompts, text (.prompt prompts) = "")
    (transcript : Transcript) :
    String.join (transcript.unprompted.map text) = String.join (transcript.map text) := by
  induction transcript with
  | nil => rfl
  | cons event transcript ih =>
      rw [← List.singleton_append, unprompted_append, List.map_append, String.join_append, ih,
        List.map_append, String.join_append]
      cases event with
      | prompt prompts =>
          rw [List.map_singleton, hprompt]
          rfl
      | _ => rfl

theorem printed_unprompted (transcript : Transcript) :
    transcript.unprompted.printed = transcript.printed :=
  join_unprompted (fun _ => rfl) transcript

theorem failures_unprompted (transcript : Transcript) :
    transcript.unprompted.failures = transcript.failures :=
  join_unprompted (fun _ => rfl) transcript

/-! What both loops write, each with its own paint. -/

/-- Failures written twice over; each time the line of the error is in red or it is not. -/
inductive Repainted (first second : Bool) : String → String → Prop
  | nil : Repainted first second "" ""
  | failed (names : ClosureNames) (error : Error) (backtrace : List String) {text other : String} :
      Repainted first second text other →
        Repainted first second
          (failureText ⟨true, first⟩ names (.failed error backtrace) ++ text)
          (failureText ⟨false, second⟩ names (.failed error backtrace) ++ other)

theorem repainted_failureText (first second : Bool) (names : ClosureNames) (outcome : Outcome) :
    Repainted first second (failureText ⟨true, first⟩ names outcome)
      (failureText ⟨false, second⟩ names outcome) := by
  cases outcome with
  | failed error backtrace =>
      have h : Repainted first second _ _ := .failed names error backtrace .nil
      rwa [String.append_empty, String.append_empty] at h
  | _ => exact .nil

namespace Repainted

variable {first second : Bool} {text other : String}

theorem append (h : Repainted first second text other) {text' other' : String}
    (h' : Repainted first second text' other') :
    Repainted first second (text ++ text') (other ++ other') := by
  induction h with
  | nil => rwa [String.empty_append, String.empty_append]
  | failed names error backtrace h ih =>
      rw [String.append_assoc, String.append_assoc]
      exact .failed names error backtrace ih

theorem eq_of_alike {colour : Bool} (h : Repainted colour colour text other) : text = other := by
  induction h with
  | nil => rfl
  | failed names error backtrace h ih =>
      rw [ih]
      rfl

end Repainted

/-- A value with an arrow before it; where there is no value, there is no text. -/
def marked (text : String) : String :=
  if text = "" then "" else "=> " ++ text

inductive Event.Twin (first second : Bool) : Event → Event → Prop
  | printed (text : String) : Twin first second (.printed text) (.printed text)
  | result (text : String) : Twin first second (.result (marked text)) (.result text)
  | failure {text other : String} :
      Repainted first second text other → Twin first second (.failure text) (.failure other)

abbrev Twins (first second : Bool) : Transcript → Transcript → Prop :=
  List.Forall₂ (Event.Twin first second)

theorem resultText_marked (first second : Bool) (names : ClosureNames) (outcome : Outcome) :
    resultText ⟨true, first⟩ names outcome =
      marked (resultText ⟨false, second⟩ names outcome) := by
  cases outcome with
  | value value =>
      have hline : value.inspect names ++ "\n" ≠ "" := by simp
      simp [resultText, marked, hline, String.append_assoc]
  | _ => rfl

theorem twins_shown (first second : Bool) (result : Outcome × State) :
    Twins first second (shown ⟨true, first⟩ result) (shown ⟨false, second⟩ result) := by
  rw [shown, shown, resultText_marked first second]
  exact .cons (.printed _) (.cons (.result _) (.cons (.failure (repainted_failureText ..)) .nil))

theorem twins_flatMap_shown (first second : Bool) (results : List (Outcome × State)) :
    Twins first second (results.flatMap (shown ⟨true, first⟩))
      (results.flatMap (shown ⟨false, second⟩)) := by
  induction results with
  | nil => exact .nil
  | cons result results ih => exact List.rel_append (twins_shown first second result) ih

section Twins

variable {first second : Bool} {transcript other : Transcript}

theorem printed_of_twins (h : Twins first second transcript other) :
    transcript.printed = other.printed := by
  rw [Transcript.printed, Transcript.printed]
  induction h with
  | nil => rfl
  | cons htwin _ ih =>
      rw [List.map_cons, List.map_cons, String.join_cons, String.join_cons, ih]
      cases htwin <;> rfl

theorem failures_of_twins (h : Twins first second transcript other) :
    Repainted first second transcript.failures other.failures := by
  rw [Transcript.failures, Transcript.failures]
  induction h with
  | nil => exact .nil
  | cons htwin _ ih =>
      rw [List.map_cons, List.map_cons, String.join_cons, String.join_cons]
      refine .append ?_ ih
      cases htwin with
      | failure htext => exact htext
      | _ => exact .nil

end Twins

section

variable [RegexEngine]

def runStages (style : Style) (state : State) (source : Source) : List Stage :=
  stagesFor id style (enough source) state { source }

def promptStages (style : Style) (state : State) (source : Source) : List Stage :=
  stagesFor promptAgain style (enough source) state { source }

theorem run_eq (style : Style) (state : State) (source : Source) :
    run style state source =
      ((runStages style state source).flatMap Stage.events,
        finalState state (runStages style state source)) :=
  runFor_eq style (enough source) state { source }

theorem prompt_eq (style : Style) (state : State) (source : Source) :
    prompt style state source =
      ((promptStages style state source).flatMap Stage.events ++
          closingOf (promptStages style state source),
        finalState state (promptStages style state source)) :=
  promptFor_eq style (enough source) state { source }

/-- The outcomes that a text leads to, each with the state that it leaves. -/
def trace : Nat → State → List Char → List (Outcome × State)
  | 0, _, _ => []
  | steps + 1, state, text =>
      let result := react text { state with output := "" }
      if result.1.isLast then [result] else result :: trace steps result.2 (textAfter text)

theorem results_eq_trace {turn : Reader → Reader} (hturn : KeepsText turn) (style : Style)
    (steps : Nat) (state : State) {reader : Reader} (hsteady : reader.source.Steady) :
    (stagesFor turn style steps state reader).map Stage.result =
      trace steps state reader.source.rest := by
  induction steps generalizing state reader with
  | zero => rfl
  | succ steps ih =>
      have hnext : (turn (stage style state reader).reader).source.Steady :=
        hturn.steady _ (steady_stage hsteady)
      have hlater := ih (stage style state reader).state hnext
      rw [hturn.rest, rest_stage hsteady] at hlater
      rw [stagesFor, trace, ← stage_result hsteady]
      change _ = if (stage style state reader).outcome.isLast then _ else _
      split
      · rfl
      · rw [List.map_cons, hlater]
        rfl

theorem stage_events (style : Style) (state : State) (reader : Reader) :
    (stage style state reader).events =
      .prompt (step { state with output := "" } reader).2.2.source.prompts ::
        shown style (stage style state reader).result :=
  rfl

theorem unprompted_events_append (style : Style) (state : State) (reader : Reader)
    (later : Transcript) :
    Transcript.unprompted ((stage style state reader).events ++ later) =
      shown style (stage style state reader).result ++ later.unprompted := by
  rw [unprompted_append, stage_events]
  rfl

theorem unprompted_stagesFor (turn : Reader → Reader) (style : Style) (steps : Nat) (state : State)
    (reader : Reader) :
    Transcript.unprompted ((stagesFor turn style steps state reader).flatMap Stage.events) =
      ((stagesFor turn style steps state reader).map Stage.result).flatMap (shown style) := by
  induction steps generalizing state reader with
  | zero => rfl
  | succ steps ih =>
      rw [stagesFor]
      split
      · exact unprompted_events_append style state reader []
      · rw [List.flatMap_cons, unprompted_events_append, ih]
        rfl

theorem prompt_mem_stagesFor {P : Source → Prop} (hinvariant : Source.Invariant P)
    (hclear : ∀ source, P source → P source.clearPrompts) {turn : Reader → Reader}
    (hturn : ∀ reader, P reader.source → P (turn reader).source) {style : Style} {steps : Nat}
    {state : State} {reader : Reader} (hsource : P reader.source) {text : String}
    (hmem : .prompt text ∈ (stagesFor turn style steps state reader).flatMap Stage.events) :
    ∃ source, P source ∧ text = source.prompts := by
  induction steps generalizing state reader with
  | zero => cases hmem
  | succ steps ih =>
      have hafter := invariant_readerAfter hinvariant hsource
      have hfirst : .prompt text ∈ (stage style state reader).events →
          ∃ source, P source ∧ text = source.prompts := by
        intro hevent
        rw [stage_events, step_reader] at hevent
        simp only [shown, List.mem_cons, Event.prompt.injEq, reduceCtorEq, List.not_mem_nil,
          or_false] at hevent
        exact ⟨_, hafter, hevent⟩
      rw [stagesFor] at hmem
      split at hmem
      · rw [List.flatMap_singleton] at hmem
        exact hfirst hmem
      · rw [List.flatMap_cons, List.mem_append] at hmem
        rcases hmem with hmem | hmem
        · exact hfirst hmem
        · apply ih (hturn _ _) hmem
          rw [stage_reader]
          exact hclear _ hafter

section Session

variable (style : Style) (state : State) {source : Source}

theorem runStages_complete (hsteady : source.Steady) :
    ∃ front last, (runStages style state source).map Stage.outcome = front ++ [last] ∧
      (∀ outcome ∈ front, outcome.isLast = false) ∧ last.isLast = true := by
  have hsteady : ({ source } : Reader).source.Steady := hsteady
  obtain ⟨front, last, hstages, _, hfront, hlast, _⟩ :=
    stagesFor_complete keepsText_id style state hsteady (length_rest_lt_enough source)
  refine ⟨front.map Stage.outcome, last.outcome, ?_, ?_, hlast⟩
  · rw [runStages, hstages, List.map_append]
    rfl
  · intro outcome houtcome
    obtain ⟨stage, hstage, rfl⟩ := List.mem_map.mp houtcome
    exact hfront stage hstage

theorem unprompted_run : (run style state source).1.unprompted =
    ((runStages style state source).map Stage.result).flatMap (shown style) := by
  rw [run_eq]
  exact unprompted_stagesFor id style (enough source) state { source }

theorem unprompted_prompt : (prompt style state source).1.unprompted =
    ((promptStages style state source).map Stage.result).flatMap (shown style) := by
  rw [prompt_eq, unprompted_append, unprompted_closingOf, List.append_nil]
  exact unprompted_stagesFor promptAgain style (enough source) state { source }

theorem silent_run (hsilent : source.Silent) {text : String}
    (hmem : .prompt text ∈ (run style state source).1) : text = "" := by
  rw [run_eq] at hmem
  obtain ⟨last, hlast, rfl⟩ :=
    prompt_mem_stagesFor Source.silent_invariant (fun _ h => ⟨h.1, rfl⟩) (fun _ h => h) hsilent hmem
  exact hlast.2

theorem prompting_promptStages (hprompting : Source.IsPrompting source.prompts) {text : String}
    (hmem : .prompt text ∈ (promptStages style state source).flatMap Stage.events) :
    Source.IsPrompting text := by
  have hturn : ∀ reader : Reader, Source.IsPrompting reader.source.prompts →
      Source.IsPrompting (promptAgain reader).source.prompts := by
    intro reader h
    rw [promptAgain]
    split
    · rw [Reader.resetPrompt, Source.prompts_resetPrompt]
      exact h
    · exact h
  obtain ⟨last, hlast, rfl⟩ :=
    prompt_mem_stagesFor Source.prompting_invariant (fun _ _ => .nil) hturn hprompting hmem
  exact hlast

end Session

/-- A session with prompts and arrows, with the standard error a terminal or not, beside one without
that paints its failures or does not, both over the same lines. -/
structure Agreement (terminal colour : Bool) (state : State) (lines : List Line) : Prop where
  results : (promptStages ⟨true, terminal⟩ state (.prompted lines)).map Stage.result =
    (runStages ⟨false, colour⟩ state (.ofLines lines)).map Stage.result
  /-- Neither stops before the source ends or the program does. -/
  complete : ∃ front last,
    (runStages ⟨false, colour⟩ state (.ofLines lines)).map Stage.outcome = front ++ [last] ∧
      (∀ outcome ∈ front, outcome.isLast = false) ∧ last.isLast = true
  states : (prompt ⟨true, terminal⟩ state (.prompted lines)).2 =
    (run ⟨false, colour⟩ state (.ofLines lines)).2
  printed : (prompt ⟨true, terminal⟩ state (.prompted lines)).1.printed =
    (run ⟨false, colour⟩ state (.ofLines lines)).1.printed
  failures : Repainted terminal colour
    (prompt ⟨true, terminal⟩ state (.prompted lines)).1.failures
    (run ⟨false, colour⟩ state (.ofLines lines)).1.failures
  /-- Where both paint, or neither does, there is one text. -/
  alike : terminal = colour → (prompt ⟨true, terminal⟩ state (.prompted lines)).1.failures =
    (run ⟨false, colour⟩ state (.ofLines lines)).1.failures
  unprompted : Twins terminal colour
    (prompt ⟨true, terminal⟩ state (.prompted lines)).1.unprompted
    (run ⟨false, colour⟩ state (.ofLines lines)).1.unprompted
  silent : ∀ text, .prompt text ∈ (run ⟨false, colour⟩ state (.ofLines lines)).1 → text = ""
  prompting : ∃ body, (prompt ⟨true, terminal⟩ state (.prompted lines)).1 =
      body ++ closingOf (promptStages ⟨true, terminal⟩ state (.prompted lines)) ∧
    ∀ text, .prompt text ∈ body → Source.IsPrompting text

theorem agreement_of_rest {lines : List Line} (hprompted : (Source.prompted lines).Steady)
    (hplain : (Source.ofLines lines).Steady)
    (hrest : (Source.prompted lines).rest = (Source.ofLines lines).rest) (terminal colour : Bool)
    (state : State) : Agreement terminal colour state lines := by
  have hresults : (promptStages ⟨true, terminal⟩ state (.prompted lines)).map Stage.result =
      (runStages ⟨false, colour⟩ state (.ofLines lines)).map Stage.result := by
    rw [promptStages, results_eq_trace keepsText_promptAgain _ _ _ hprompted, runStages,
      results_eq_trace keepsText_id _ _ _ hplain, hrest]
    rfl
  have hunprompted : Twins terminal colour
      (prompt ⟨true, terminal⟩ state (.prompted lines)).1.unprompted
      (run ⟨false, colour⟩ state (.ofLines lines)).1.unprompted := by
    rw [unprompted_prompt, unprompted_run, hresults]
    exact twins_flatMap_shown terminal colour _
  have hfailures := failures_of_twins hunprompted
  rw [failures_unprompted, failures_unprompted] at hfailures
  refine ⟨hresults, runStages_complete _ state hplain, ?_, ?_, hfailures, ?_, hunprompted, ?_, ?_⟩
  · rw [prompt_eq, run_eq, finalState_eq, finalState_eq, hresults]
  · have hprinted := printed_of_twins hunprompted
    rwa [printed_unprompted, printed_unprompted] at hprinted
  · rintro rfl
    exact hfailures.eq_of_alike
  · exact fun _ => silent_run _ state ⟨rfl, rfl⟩
  · exact ⟨_, congrArg Prod.fst (prompt_eq _ _ _),
      fun _ => prompting_promptStages _ state .nil⟩

/-- Every standard input that is a text and does not end in the middle of a line leads to the same
session with prompts and without, whatever either paints. -/
theorem sessions_agree (terminal colour : Bool) (state : State) {text : String}
    (htext : text = "" ∨ text.toList.getLast? = some '\n') :
    Agreement terminal colour state (Line.allOfBytes text.toUTF8.data.toList) := by
  have hcompleted : Line.completed text.toList = text.toList := by
    rw [Line.completed, if_pos]
    exact htext.imp_left fun hnil => by rw [hnil]; rfl
  refine agreement_of_rest (Source.steady_prompted_text text) (Source.steady_ofLines _) ?_ _ _ _
  rw [Source.rest_prompted_text, Source.rest_ofLines_text, hcompleted]

end

open scoped Pattern

/-- A line with a keyword on it, written with an arrow and without. -/
theorem sessions_agree_keyword :
    Agreement true false (State.initial .empty) [some ":a\n"] ∧
      (prompt ⟨true, true⟩ (State.initial .empty) (.prompted [some ":a\n"])).1.output =
        "roughcut> => :a\nroughcut> roughcut> \n" ∧
      (run ⟨false, false⟩ (State.initial .empty) (.ofLines [some ":a\n"])).1.output = ":a\n" := by
  have hlines : Line.allOfBytes ":a\n".toUTF8.data.toList = [some ":a\n"] := by decide +kernel
  have hagree : Agreement true false (State.initial .empty)
      (Line.allOfBytes ":a\n".toUTF8.data.toList) := sessions_agree _ _ _ (.inr rfl)
  rw [hlines] at hagree
  exact ⟨hagree, by decide +kernel, by decide +kernel⟩

/-- On a terminal the session with prompts writes its failure in red, the one without does not. -/
theorem failures_differ_parenthesis :
    Line.allOfBytes ")\n".toUTF8.data.toList = [some ")\n"] ∧
      (prompt ⟨true, true⟩ (State.initial .empty) (.prompted [some ")\n"])).1.failures =
        "\x1b[31mReadError: unexpected ')'\x1b[0m\n" ∧
      (run ⟨false, false⟩ (State.initial .empty) (.ofLines [some ")\n"])).1.failures =
        "ReadError: unexpected ')'\n" ∧
      (prompt ⟨true, true⟩ (State.initial .empty) (.prompted [some ")\n"])).1.failures ≠
        (run ⟨false, false⟩ (State.initial .empty) (.ofLines [some ")\n"])).1.failures := by
  decide +kernel

end Lisplet.TopLevel
