import Lisplet.CommandLine
import Lisplet.Regex.PatternEngine

namespace Lisplet.CommandLine

/-! The program itself: it gathers what a run needs, and writes what the run says. -/

def fileError : IO.Error → FileError
  | .permissionDenied _ _ _ => .denied
  | .inappropriateType _ code _ => if code = 21 then .isDirectory else .notDirectory
  | .invalidArgument _ code _ => if code = 36 then .nameTooLong else .badPath
  | _ => .notFound

def readPath (path : String) : IO (Except FileError String) := do
  try
    let bytes ← IO.FS.readBinFile path
    match Line.ofBytes bytes.toList with
    | some text => return .ok text
    | none => return .error .notText
  catch error => return .error (fileError error)

/-- The files read so far; a file that was not read yet looks as if it were not there. -/
def filesOf (home : Option String) (known : List (String × Except FileError String)) : Files :=
  ⟨home, fun path => (known.lookup path).getD (.error .notFound)⟩

variable [RegexEngine]

/-- Runs with the files read so far. If the run asks for another one, that one is read and the run
starts again. -/
partial def settle (terminal : Bool) (home : Option String) (surroundings : Option String)
    (arguments : List String) (input : List UInt8)
    (known : List (String × Except FileError String)) : IO Report := do
  let report := launch terminal (filesOf home known) surroundings arguments input
  match report.state.loads.reverse.find? fun path => (known.lookup path).isNone with
  | none => return report
  | some path =>
      settle terminal home surroundings arguments input ((path, ← readPath path) :: known)

def takesInput (arguments : List String) : Bool :=
  match Options.parse .builtin arguments with
  | .ok options => options.files.isEmpty
  | .error _ => false

def standardInput : IO (List UInt8) := do
  return (← (← IO.getStdin).readBinToEnd).toList

def libraryVariable : String :=
  "ROUGHCUT_STDLIB"

end Lisplet.CommandLine

open Lisplet CommandLine in
open scoped Pattern in
def main (arguments : List String) : IO UInt32 := do
  let surroundings ← IO.getEnv libraryVariable
  let home ← IO.getEnv "HOME"
  let terminal ← (← IO.getStderr).isTty
  let input ← if takesInput arguments then standardInput else pure []
  let nearby ← readPath LibraryPath.localFile
  let report ←
    settle terminal home surroundings arguments input [(LibraryPath.localFile, nearby)]
  IO.print report.transcript.output
  IO.eprint report.transcript.failures
  match report.result with
  | .ok _ => return 0
  | .error error =>
      IO.eprintln (error.message report.state.names)
      return 1
