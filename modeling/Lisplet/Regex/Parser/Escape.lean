import Lisplet.Regex.Parser.Input
import Lisplet.Regex.Pattern

namespace Lisplet.PatternSyntax

inductive Escape where
  | literal (c : Char)
  | set (set : CharSet)
  | look (look : Look)

def hexDigits : Nat → Parser (List Char)
  | 0 => return []
  | count + 1 => do
      let c ← current
      unless CodeText.isHexDigit c.toLower do failure
      advanceSpace
      return c.toLower :: (← hexDigits count)

def bracedDigits : Nat → Parser (List Char)
  | 0 => failure
  | count + 1 => do
      let c ← current
      advanceSpace
      if c = '\x7d' then return []
      unless CodeText.isHexDigit c.toLower do failure
      return c.toLower :: (← bracedDigits count)

def charOfCode (code : Nat) : Parser Char :=
  if code.isValidChar then return Char.ofNat code else failure

def hexEscape (count : Nat) : Parser Escape := do
  let braced := (← current) = '\x7b'
  let digits ← if braced then advanceSpace *> (do bracedDigits (← fuel)) else hexDigits count
  if digits = [] then failure
  let code := CodeText.toCode digits
  if !(← flags).unicode && !braced && count = 2 && 127 < code then failure
  return .literal (← charOfCode code)

def bracedName : Nat → Parser (List Char)
  | 0 => failure
  | count + 1 => do
      let c ← current
      if c = '\x7d' then
        advance
        return []
      advanceSpace
      return c :: (← bracedName count)

def splitAt? (separator : List Char) : List Char → Option (List Char × List Char)
  | [] => none
  | c :: rest =>
      if separator.isPrefixOf (c :: rest) then some ([], (c :: rest).drop separator.length)
      else (splitAt? separator rest).map fun (before, after) => (c :: before, after)

def valuedSet (property value : List Char) : Option CharSet :=
  CharSet.valued? (CharSet.normalize property) (CharSet.normalize value)

def propertySet (negated : Bool) (name : List Char) : Parser CharSet := do
  let (negated, set) :=
    match splitAt? ['!', '='] name, splitAt? [':'] name, splitAt? ['='] name with
    | some (property, value), _, _ => (!negated, valuedSet property value)
    | none, some (property, value), _ => (negated, valuedSet property value)
    | none, none, some (property, value) => (negated, valuedSet property value)
    | none, none, none => (negated, CharSet.named? (CharSet.normalize name))
  match set with
  | some set => foldAndNegate negated set
  | none => failure

def propertyEscape (negated : Bool) : Parser Escape := do
  unless (← flags).unicode do failure
  let c ← current
  if c = '\\' then failure
  advanceSpace
  let name ← if c = '\x7b' then do bracedName (← fuel) else pure [c]
  return .set (← propertySet negated name)

def classEscape (letter : Char) : Parser Escape := do
  let unicode := (← flags).unicode
  let set :=
    match letter.toLower, unicode with
    | 'd', true => Repertoire.decimalDigit
    | 'd', false => CharSet.asciiDigit
    | 's', true => Repertoire.whiteSpace
    | 's', false => CharSet.asciiSpace
    | _, true => Repertoire.word
    | _, false => CharSet.asciiWord
  return .set (← negateSet letter.isUpper set)

def isBoundaryChar (c : Char) : Bool :=
  ('A' ≤ c && c ≤ 'Z') || ('a' ≤ c && c ≤ 'z') || c = '-'

def boundaryName : Nat → Parser (List Char)
  | 0 => return []
  | count + 1 => do
      match ← peek? with
      | some c =>
          if isBoundaryChar c then
            advanceSpace
            return c :: (← boundaryName count)
          else return []
      | none => return []

/-- After `\b`, a name in braces asks for one side of a word only; a count in braces does not. -/
def boundaryEscape : Parser Escape := do
  let ascii := !(← flags).unicode
  let start ← get
  if (← peek?) ≠ some '\x7b' then return .look (.wordBoundary ascii)
  advanceSpace
  if !isBoundaryChar (← current) then
    set start
    return .look (.wordBoundary ascii)
  let name ← boundaryName (← fuel)
  expect '\x7d'
  match String.ofList name with
  | "start" => return .look (.wordStart ascii)
  | "end" => return .look (.wordEnd ascii)
  | "start-half" => return .look (.wordStartHalf ascii)
  | "end-half" => return .look (.wordEndHalf ascii)
  | _ => failure

/-- Printable ASCII that is no letter, digit or angle bracket stands for itself. -/
def isEscapable (c : Char) : Bool :=
  c.toNat < 128 && !c.isAlphanum && c ≠ '<' && c ≠ '>'

def escape : Parser Escape := do
  let c ← current
  advance
  let ascii := !(← flags).unicode
  if c = 'x' ∨ c = 'u' ∨ c = 'U' then
    skipSpace
    hexEscape (if c = 'x' then 2 else if c = 'u' then 4 else 8)
  else if c = 'p' ∨ c = 'P' then
    skipSpace
    propertyEscape (c = 'P')
  else if c ∈ ['d', 's', 'w', 'D', 'S', 'W'] then classEscape c
  else if isEscapable c then return .literal c
  else
    match c with
    | 'a' => return .literal '\x07'
    | 'f' => return .literal '\x0c'
    | 't' => return .literal '\t'
    | 'n' => return .literal '\n'
    | 'r' => return .literal '\r'
    | 'v' => return .literal '\x0b'
    | 'A' => return .look .textStart
    | 'z' => return .look .textEnd
    | 'b' => boundaryEscape
    | 'B' => return .look (.notWordBoundary ascii)
    | '<' => return .look (.wordStart ascii)
    | '>' => return .look (.wordEnd ascii)
    | _ => failure

end Lisplet.PatternSyntax
