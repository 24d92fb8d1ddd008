import Lisplet.Regex.Property

namespace Lisplet.PatternSyntax

/-! The text of a pattern while it is read, and the flags in force. Flags are resolved while reading,
so that a pattern stands on its own. -/

structure Flags where
  ignoreCase : Bool := false
  multiLine : Bool := false
  dotAll : Bool := false
  extended : Bool := false
  anyLineEnd : Bool := false
  swapGreed : Bool := false
  unicode : Bool := true

structure Input where
  rest : List Char
  flags : Flags
  /-- More steps than reading what is left can take. -/
  fuel : Nat
  names : List (List Char) := []
  groups : Nat := 0

/-- A reader of patterns; it fails without saying why. -/
abbrev Parser := StateT Input Option

def peek? : Parser (Option Char) :=
  return (← get).rest.head?

def advance : Parser Unit :=
  modify fun input => { input with rest := input.rest.tail }

def dropSpace : Bool → List Char → List Char
  | _, [] => []
  | true, c :: rest => dropSpace (c ≠ '\n') rest
  | false, c :: rest =>
      if CharProperty.isWhiteSpace c then dropSpace false rest
      else if c = '#' then dropSpace true rest
      else c :: rest

/-- Blanks and comments count for nothing if the flag `x` is on. -/
def skipSpace : Parser Unit :=
  modify fun input =>
    if input.flags.extended then { input with rest := dropSpace false input.rest } else input

def advanceSpace : Parser Unit := do
  advance
  skipSpace

def current : Parser Char := do
  match ← peek? with
  | some c => return c
  | none => failure

def expect (c : Char) : Parser Unit := do
  unless (← current) = c do failure
  advance

def takeText (text : List Char) : Parser Bool := do
  let input ← get
  if text.isPrefixOf input.rest then
    set { input with rest := input.rest.drop text.length }
    return true
  else return false

def flags : Parser Flags :=
  return (← get).flags

def setFlags (flags : Flags) : Parser Unit :=
  modify fun input => { input with flags := flags }

def nextGroup : Parser Nat := do
  modify fun input => { input with groups := input.groups + 1 }
  return (← get).groups

def fuel : Parser Nat :=
  return (← get).fuel

def foldSet (set : CharSet) : Parser CharSet := do
  let flags ← flags
  if flags.ignoreCase then
    return set.close (if flags.unicode then CaseFolding.pairs else CaseFolding.asciiPairs)
  else return set

/-- Without the flag `u` a set must stay within ASCII, which no complement does. -/
def negateSet (negated : Bool) (set : CharSet) : Parser CharSet := do
  if negated && !(← flags).unicode then failure
  return set.negate negated

def foldAndNegate (negated : Bool) (set : CharSet) : Parser CharSet := do
  negateSet negated (← foldSet set)

end Lisplet.PatternSyntax
