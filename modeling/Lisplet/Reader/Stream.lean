import Lisplet.Reader.Datum
import Lisplet.Source

namespace Lisplet

structure Reader where
  source : Source
  /-- Nothing of the current line has been taken. -/
  atLineStart : Bool := true

namespace Reader

def lineStartAfter (before : Bool) (taken : List Char) : Bool :=
  match taken.getLast? with
  | none => before
  | some c => c = '\n'

/-- Takes characters from the source, and asks it for more if none can be seen behind them. -/
def consume (reader : Reader) (text rest : List Char) : Reader :=
  let count := text.length - rest.length
  let source := reader.source.advance count
  { source := if rest = [] then source.probe else source
    atLineStart := lineStartAfter reader.atLineStart (text.take count) }

def apply (reading : List Char → Reading α) (reader : Reader) : Reading α × Reader :=
  let text := reader.source.rest
  let result := reading text
  (result, reader.consume text result.rest)

variable [RegexEngine]

def next (reader : Reader) : Reading (Option Value) × Reader :=
  reader.apply read

def nextRequired (reader : Reader) : Reading Value × Reader :=
  reader.apply require

def remaining (reader : Reader) : Reading (List Value) × Reader :=
  reader.apply readAll

/-- What lies behind the next newline, if only other whitespace stands before it. -/
def dropBlankLine? : List Char → Option (List Char)
  | [] => none
  | c :: rest =>
      if c = '\n' then some rest
      else if isWhitespace c then dropBlankLine? rest
      else none

def skipBlankLine (reader : Reader) : Bool × Reader :=
  let text := reader.source.rest
  match dropBlankLine? text with
  | some rest =>
      let count := text.length - rest.length
      (true, { source := reader.source.advance count, atLineStart := true })
  | none =>
      let blanks := text.takeWhile isWhitespace
      (false,
        { source := (reader.source.advance blanks.length).probe
          atLineStart := lineStartAfter reader.atLineStart blanks })

def resetPrompt (reader : Reader) : Reader :=
  { reader with source := reader.source.resetPrompt }

end Reader

end Lisplet
