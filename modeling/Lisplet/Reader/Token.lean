import Lisplet.Number.Text
import Lisplet.Text.StringLiteral
import Lisplet.Value

namespace Lisplet.Reader

/-! The pieces of text below the level of a datum. -/

def isWhitespace (c : Char) : Bool :=
  c = ' ' || c = '\t' || c = '\r' || c = '\n' || c = '\x0c'

/-- A token ends before whitespace, before a closing parenthesis and at the end of the text. -/
def isTerminator : Option Char → Bool
  | none => true
  | some c => isWhitespace c || c = ')'

def isTokenChar (c : Char) : Bool :=
  !isTerminator (some c)

/-- Drops whitespace and comments; a comment runs from a semicolon through the end of its line. -/
def dropLayout (inComment : Bool) : List Char → List Char
  | [] => []
  | c :: rest =>
      if inComment then dropLayout (c ≠ '\n') rest
      else if isWhitespace c then dropLayout false rest
      else if c = ';' then dropLayout true rest
      else c :: rest

def atomOfToken (token : List Char) : Value :=
  match String.ofList token with
  | "nil" => .nil
  | "true" => .bool true
  | "false" => .bool false
  | name => .symbol ⟨name⟩

def isCanonical : List Char → Bool
  | ['0'] => true
  | [] => false
  | c :: rest => c ≠ '0' && (c :: rest).all NumberText.isDigit

def isFractional : List Char → Bool
  | '.' :: rest =>
      rest.takeWhile NumberText.isDigit ≠ [] &&
        (NumberText.toExponent? (rest.dropWhile NumberText.isDigit)).isSome
  | rest => (NumberText.toExponent? rest).isSome

def numberOfToken? (token : List Char) : Option Value :=
  let unsigned := (NumberText.splitSign token).2
  let whole := unsigned.takeWhile NumberText.isDigit
  let rest := unsigned.dropWhile NumberText.isDigit
  if !isCanonical whole then none
  else if rest = [] then (NumberText.toInt? token).map .int
  else if isFractional rest then (NumberText.toFloat? token).map .float
  else none

/-- A backslash keeps the closing character from closing, and is then dropped; before any other
character it stays. -/
def regexPair (close c : Char) : List Char :=
  if c = close then [c] else ['\\', c]

def regexBody (close : Char) : List Char → Option (List Char × List Char)
  | [] => none
  | ['\\'] => none
  | '\\' :: c :: rest =>
      (regexBody close rest).map fun (source, rest) => (regexPair close c ++ source, rest)
  | c :: rest =>
      if c = close then some ([], rest)
      else (regexBody close rest).map fun (source, rest) => (c :: source, rest)

def isRegexOption (c : Char) : Bool :=
  c = 'i' || c = 'x' || c = 'm'

end Lisplet.Reader
