import Lisplet.Regex.Parser.Escape

namespace Lisplet.PatternSyntax

structure ClassPart where
  set : CharSet
  depth : Nat := 0

structure ClassItems where
  set : CharSet := .nothing
  depth : Nat := 0
  count : Nat := 0

namespace ClassItems

def add (items : ClassItems) (part : ClassPart) : ClassItems :=
  ⟨items.set.union part.set, max items.depth part.depth, items.count + 1⟩

/-- Two items or more are a level of their own. -/
def toPart (items : ClassItems) : ClassPart :=
  ⟨items.set, if items.count < 2 then items.depth else items.depth + 1⟩

end ClassItems

/-- A literal without the flag `u` must be ASCII inside a class. -/
def classLiteral (c : Char) : Parser Char := do
  if !(← flags).unicode && 127 < c.toNat then failure
  return c

def peekPast : Parser (Option Char) := do
  let input ← get
  return if input.flags.extended then (dropSpace false input.rest.tail).head?
    else input.rest.tail.head?

def classAtom : Parser Escape := do
  let c ← current
  advance
  if c = '\\' then escape else return .literal c

def classItem : Parser CharSet := do
  let first ← classAtom
  skipSpace
  let c ← current
  if c ≠ '-' then single first
  else
    let past ← peekPast
    if past = some ']' ∨ past = some '-' then single first
    else
      advanceSpace
      let last ← classAtom
      match first, last with
      | .literal first, .literal last =>
          if last < first then failure
          return CharSet.range (← classLiteral first) (← classLiteral last)
      | _, _ => failure
where
  single : Escape → Parser CharSet
    | .literal c => return CharSet.only (← classLiteral c)
    | .set set => return set
    | .look _ => failure

/-- `[:name:]` or `[:^name:]` inside a class; anything else is left alone. -/
def posixClass? : Parser (Option CharSet) := do
  let input ← get
  match input.rest with
  | '[' :: ':' :: rest =>
      let (negated, rest) :=
        match rest with
        | '^' :: rest => (true, rest)
        | rest => (false, rest)
      let name := rest.takeWhile (· ≠ ':')
      match rest.dropWhile (· ≠ ':'), CharSet.posix.lookup (String.ofList name) with
      | ':' :: ']' :: rest, some set =>
          moveTo rest
          return some (← foldAndNegate negated set)
      | _, _ => return none
  | _ => return none
where
  moveTo (rest : List Char) : Parser Unit :=
    modify fun input => { input with rest := rest }

def classOperator? : List Char → Option (CharSet → CharSet → CharSet)
  | '&' :: '&' :: _ => some CharSet.inter
  | '-' :: '-' :: _ => some CharSet.minus
  | '~' :: '~' :: _ => some CharSet.differ
  | _ => none

/-- Hyphens at the front of a class stand for themselves. -/
def leadingHyphens : Nat → ClassItems → Parser ClassItems
  | 0, items => return items
  | count + 1, items => do
      if (← current) = '-' then
        advanceSpace
        leadingHyphens count (items.add ⟨.only '-', 0⟩)
      else return items

/-- What an operator has on its left. -/
abbrev Pending := Option (ClassPart × (CharSet → CharSet → CharSet))

def combine (pending : Pending) (right : ClassPart) : Parser ClassPart := do
  match pending with
  | none => return right
  | some (left, operator) =>
      return ⟨operator (← foldSet left.set) (← foldSet right.set), max left.depth right.depth + 1⟩

def classItems (bracket : Parser ClassPart) : Nat → Pending → ClassItems → Parser ClassPart
  | 0, _, _ => failure
  | count + 1, pending, items => do
      skipSpace
      let c ← current
      if c = '[' then
        match ← posixClass? with
        | some set => classItems bracket count pending (items.add ⟨set, 0⟩)
        | none =>
            advanceSpace
            classItems bracket count pending (items.add (← bracket))
      else if c = ']' then
        advance
        combine pending items.toPart
      else
        match classOperator? (← get).rest with
        | some operator =>
            advance
            advance
            classItems bracket count (some (← combine pending items.toPart, operator)) {}
        | none => classItems bracket count pending (items.add ⟨← classItem, 0⟩)

def bracket : Nat → Parser ClassPart
  | 0 => failure
  | depth + 1 => do
      let negated := (← current) = '^'
      if negated then advanceSpace
      let items ← leadingHyphens (← fuel) {}
      let items ←
        if items.count = 0 && (← current) = ']' then do
          advanceSpace
          pure (items.add ⟨.only ']', 0⟩)
        else pure items
      let _ ← current
      let part ← classItems (bracket depth) (← fuel) none items
      return ⟨← foldAndNegate negated part.set, part.depth + 1⟩

end Lisplet.PatternSyntax
