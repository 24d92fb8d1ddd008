import Lisplet.Reader.Stream
import Lisplet.Session

namespace Lisplet

/-! The loop that reads a form, evaluates it and shows what came of it. A failure ends a step but
never the loop. -/

inductive Outcome where
  | value (value : Value)
  | failed (error : Error) (backtrace : List String)
  | blank
  | ended
  | exited
  /-- Evaluation went deeper than was allowed. -/
  | exhausted

namespace Outcome

def isLast : Outcome → Bool
  | ended | exited | exhausted => true
  | _ => false

/-- A failure with the forms being applied; the stack is empty afterwards. -/
def ofError (error : Error) (state : State) : Outcome × State :=
  (failed error state.backtrace, state.clearStack)

end Outcome

namespace TopLevel

variable [RegexEngine]

/-- Evaluates a datum; a value is also bound to the underscore. -/
def evaluate (datum : Value) (state : State) : Outcome × State :=
  match EStateM.run (Session.eval datum) state with
  | .ok value state =>
      (.value value, { state with store := state.store.define .underscore value })
  | .error (.error .exit) state => (.exited, state.clearStack)
  | .error (.error error) state => Outcome.ofError error state
  | .error .outOfFuel state => (.exhausted, state.clearStack)

def step (state : State) (reader : Reader) : Outcome × State × Reader :=
  let (skipped, reader) := reader.skipBlankLine
  if skipped then (.blank, state, reader)
  else
    let (reading, reader) := reader.next
    let state := { state with symbols := state.symbols.internAll reading.met }
    match reading.outcome with
    | .error error =>
        let (outcome, state) := Outcome.ofError error state
        (outcome, state, reader)
    | .ok none => (.ended, state, reader)
    | .ok (some datum) =>
        let (outcome, state) := evaluate datum state
        (outcome, state, reader)

structure Style where
  marker : Bool
  colour : Bool

def red (text : String) : String :=
  "\x1b[31m" ++ text ++ "\x1b[0m"

def resultText (style : Style) (names : ClosureNames) : Outcome → String
  | .value value => (if style.marker then "=> " else "") ++ value.inspect names ++ "\n"
  | _ => ""

def failureText (style : Style) (names : ClosureNames) : Outcome → String
  | .failed error backtrace =>
      let line := error.className ++ ": " ++ error.message names
      (if style.colour then red line else line) ++ "\n" ++
        String.join (backtrace.map (· ++ "\n"))
  | _ => ""

inductive Event where
  | prompt (text : String)
  | printed (text : String)
  | result (text : String)
  | failure (text : String)
deriving DecidableEq, Inhabited

namespace Event

def output : Event → String
  | prompt text | printed text | result text => text
  | failure _ => ""

def printedText : Event → String
  | printed text => text
  | _ => ""

def resultText : Event → String
  | result text => text
  | _ => ""

def failureText : Event → String
  | failure text => text
  | _ => ""

end Event

abbrev Transcript := List Event

namespace Transcript

def output (transcript : Transcript) : String :=
  String.join (transcript.map Event.output)

def printed (transcript : Transcript) : String :=
  String.join (transcript.map Event.printedText)

def results (transcript : Transcript) : String :=
  String.join (transcript.map Event.resultText)

def failures (transcript : Transcript) : String :=
  String.join (transcript.map Event.failureText)

end Transcript

/-- One step with all that it writes; what was printed before is not its own. -/
structure Stage where
  outcome : Outcome
  events : Transcript
  state : State
  reader : Reader

def stage (style : Style) (state : State) (reader : Reader) : Stage :=
  let (outcome, state, reader) := step { state with output := "" } reader
  { outcome
    events :=
      [.prompt reader.source.prompts, .printed state.output,
        .result (resultText style state.names outcome),
        .failure (failureText style state.names outcome)]
    state
    reader := { reader with source := reader.source.clearPrompts } }

/-- Enough steps to come to the end of a source: each step takes a character or a line. -/
def enough (source : Source) : Nat :=
  source.buffer.length +
    (source.lines.map fun line => (line.getD "").length + 2).foldl (· + ·) 0 + 2

def runFor (style : Style) : Nat → State → Reader → Transcript × State
  | 0, state, _ => ([], state)
  | steps + 1, state, reader =>
      let stage := stage style state reader
      if stage.outcome.isLast then (stage.events, stage.state)
      else
        let (events, state) := runFor style steps stage.state stage.reader
        (stage.events ++ events, state)

def run (style : Style) (state : State) (source : Source) : Transcript × State :=
  runFor style (enough source) state { source }

/-- As `runFor`, with the primary prompt before each line that starts a form, and a newline at the
end of the source. -/
def promptFor (style : Style) : Nat → State → Reader → Transcript × State
  | 0, state, _ => ([], state)
  | steps + 1, state, reader =>
      let stage := stage style state reader
      match stage.outcome with
      | .ended => (stage.events ++ [.prompt "\n"], stage.state)
      | .exited | .exhausted => (stage.events, stage.state)
      | _ =>
          let reader := if stage.reader.atLineStart then stage.reader.resetPrompt else stage.reader
          let (events, state) := promptFor style steps stage.state reader
          (stage.events ++ events, state)

def prompt (style : Style) (state : State) (source : Source) : Transcript × State :=
  promptFor style (enough source) state { source }

end TopLevel

end Lisplet
