import Lisplet.Text.Lines

namespace Lisplet

/-! Where characters come from: a text at hand, or lines that are fetched when they are needed. -/

inductive Supply where
  /-- Lines are taken as they are; the first one that is no text ends the source for good. -/
  | plain
  /-- A prompt is written before each line, and each line gets a newline. A line that is no text
  counts as the end once. -/
  | prompted (continuing : Bool)
deriving DecidableEq, Inhabited

structure Source where
  /-- The characters fetched and not yet taken. -/
  buffer : List Char
  lines : List Line
  supply : Supply
  prompts : String
deriving Inhabited

namespace Source

def primaryPrompt : String :=
  "roughcut> "

def secondaryPrompt : String :=
  ""

def ofText (text : List Char) : Source :=
  ⟨text, [], .plain, ""⟩

def ofLines (lines : List Line) : Source :=
  ⟨[], lines, .plain, ""⟩

def prompted (lines : List Line) : Source :=
  ⟨[], lines, .prompted false, ""⟩

def prompt : Supply → String
  | .plain => ""
  | .prompted continuing => if continuing then secondaryPrompt else primaryPrompt

def chomp (line : List Char) : List Char :=
  if line.getLast? = some '\n' then line.dropLast else line

def deliver : Supply → List Char → List Char
  | .plain, line => line
  | .prompted _, line => chomp line ++ ['\n']

/-- Asks for the next line, to be put into an empty buffer. -/
def fetch (source : Source) : Source :=
  let asked := { source with prompts := source.prompts ++ prompt source.supply }
  match source.lines, source.supply with
  | [], _ => asked
  | none :: _, .plain => { asked with lines := [] }
  | none :: lines, .prompted _ => { asked with lines := lines }
  | some line :: lines, .plain =>
      { asked with buffer := deliver .plain line.toList, lines := lines }
  | some line :: lines, .prompted _ =>
      { asked with
        buffer := deliver source.supply line.toList, lines := lines, supply := .prompted true }

def get (source : Source) : Option Char × Source :=
  let source := if source.buffer = [] then source.fetch else source
  match source.buffer with
  | [] => (none, source)
  | c :: buffer => (some c, { source with buffer := buffer })

def unget (c : Char) (source : Source) : Source :=
  { source with buffer := c :: source.buffer }

def resetPrompt (source : Source) : Source :=
  match source.supply with
  | .plain => source
  | .prompted _ => { source with supply := .prompted false }

def clearPrompts (source : Source) : Source :=
  { source with prompts := "" }

/-- The characters that can be taken before the source next reports its end. -/
def rest (source : Source) : List Char :=
  source.buffer ++
    (source.lines.takeWhile Option.isSome).flatMap
      (fun line => deliver source.supply (line.getD "").toList)

def advance : Nat → Source → Source
  | 0, source => source
  | count + 1, source => advance count source.get.2

def probe (source : Source) : Source :=
  match source.get with
  | (some c, source) => source.unget c
  | (none, source) => source

/-- A line asked for with a prompt of its own, without its newline. -/
def nextLine (ownPrompt : String) (source : Source) : Option Line × Source :=
  let asked := { source with prompts := source.prompts ++ ownPrompt }
  match source.lines with
  | [] => (none, asked)
  | line :: lines =>
      (some (line.map fun text => String.ofList (chomp text.toList)), { asked with lines := lines })

end Source

end Lisplet
