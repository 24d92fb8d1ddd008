import Lisplet.Library
import Lisplet.TopLevel

namespace Lisplet

/-! The command line: options, and what they set going. -/

inductive Mode where
  | interactive | simple | batch
deriving DecidableEq, Inhabited, Repr

inductive LibraryPath where
  | builtin
  | file (path : String)
deriving DecidableEq, Inhabited, Repr

namespace LibraryPath

def text : LibraryPath → String
  | builtin => "<builtin>"
  | file path => path

def localFile : String :=
  "stdlib.lisp"

/-- A path from the surroundings comes first, then a file at hand. -/
def preset (surroundings : Option String) (files : Files) : LibraryPath :=
  match surroundings with
  | some path => file path
  | none => if files.has localFile then file localFile else builtin

end LibraryPath

structure Options where
  mode : Mode
  library : LibraryPath
  files : List String
deriving DecidableEq, Inhabited, Repr

inductive UsageError where
  | unknownOption (option : String)
  | missingLibraryPath
deriving DecidableEq, Inhabited, Repr

namespace UsageError

def usage : String :=
  "usage: roughcut [--no-prompt | --simple] [--stdlib PATH] [FILE...]"

def message : UsageError → String
  | unknownOption option => "unknown option " ++ option ++ "\n" ++ usage
  | missingLibraryPath => "--stdlib needs a path\n" ++ usage

end UsageError

namespace Options

def isOption (argument : String) : Bool :=
  ['-', '-'].isPrefixOf argument.toList

def parseFrom : Options → List String → Except UsageError Options
  | options, [] => .ok options
  | options, "--no-prompt" :: rest => parseFrom { options with mode := .batch } rest
  | options, "--simple" :: rest => parseFrom { options with mode := .simple } rest
  | _, ["--stdlib"] => .error .missingLibraryPath
  | options, "--stdlib" :: path :: rest => parseFrom { options with library := .file path } rest
  | options, argument :: rest =>
      if isOption argument then .error (.unknownOption argument)
      else parseFrom { options with files := options.files ++ [argument] } rest

def parse (library : LibraryPath) (arguments : List String) : Except UsageError Options :=
  parseFrom ⟨.interactive, library, []⟩ arguments

end Options

inductive LaunchError where
  | usage (error : UsageError)
  | bootstrap (library : LibraryPath) (error : Error)
  | script (path : String)
  | exhausted

namespace LaunchError

def message (names : ClosureNames) : LaunchError → String
  | usage error => error.message
  | bootstrap library error => "loading " ++ library.text ++ ": " ++ error.message names
  | script path => path ++ " failed"
  | exhausted => "evaluation went too deep"

end LaunchError

structure Report where
  result : Except LaunchError Unit
  transcript : TopLevel.Transcript
  state : State

namespace CommandLine

open TopLevel (Event Style Transcript)

variable [RegexEngine]

def loadLibrary : LibraryPath → Eval Value
  | .builtin => Session.loadText Library.text
  | .file path => Session.loadFile path

/-- Failures are in red if the standard error is a terminal. -/
def promptStyle (terminal : Bool) : Style :=
  ⟨true, terminal⟩

def batchStyle : Style :=
  ⟨false, false⟩

def printed (state : State) : Transcript × State :=
  ([Event.printed state.output], { state with output := "" })

/-! What runs is told whether the standard error is a terminal. -/

variable (terminal : Bool)

/-- Loads files in order, up to the first that fails or exits. -/
def runFiles : List String → State → Report
  | [], state => ⟨.ok (), [], state⟩
  | path :: rest, state =>
      match EStateM.run (Session.loadFile path) state with
      | .ok _ state =>
          let (events, state) := printed state
          let report := runFiles rest state
          { report with transcript := events ++ report.transcript }
      | .error (.error .exit) state =>
          let (events, state) := printed state
          ⟨.ok (), events, state⟩
      | .error (.error error) state =>
          let (events, state) := printed state
          let (outcome, state) := Outcome.ofError error state
          let failure := TopLevel.failureText (promptStyle terminal) state.names outcome
          ⟨.error (.script path), events ++ [.failure failure], state⟩
      | .error .outOfFuel state =>
          let (events, state) := printed state
          ⟨.error .exhausted, events, state⟩

def runMode (options : Options) (input : List UInt8) (state : State) : Report :=
  let lines := Line.allOfBytes input
  if options.files.isEmpty then
    let (transcript, state) :=
      match options.mode with
      | .batch => TopLevel.run batchStyle state (.ofLines lines)
      | .simple | .interactive => TopLevel.prompt (promptStyle terminal) state (.prompted lines)
    ⟨.ok (), transcript, state⟩
  else runFiles terminal options.files state

def start (options : Options) (files : Files) (input : List UInt8) : Report :=
  match EStateM.run (loadLibrary options.library) (State.initial files) with
  | .ok _ state =>
      let (events, state) := printed state
      let report := runMode terminal options input state
      { report with transcript := events ++ report.transcript }
  | .error (.error error) state =>
      let (events, state) := printed state
      ⟨.error (.bootstrap options.library error), events, state⟩
  | .error .outOfFuel state =>
      let (events, state) := printed state
      ⟨.error .exhausted, events, state⟩

def launch (files : Files) (surroundings : Option String) (arguments : List String)
    (input : List UInt8) : Report :=
  match Options.parse (.preset surroundings files) arguments with
  | .error error => ⟨.error (.usage error), [], State.initial files⟩
  | .ok options => start terminal options files input

end CommandLine

end Lisplet
