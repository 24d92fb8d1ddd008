import Lisplet.Regex.Parser.CharClass
import Lisplet.Regex.Machine

namespace Lisplet

namespace PatternSyntax

structure Item where
  pattern : Pattern
  repeatable : Bool := true
  depth : Nat := 0

def dropBlanks : Parser Unit :=
  modify fun input => { input with rest := input.rest.dropWhile CharProperty.isWhiteSpace }

def decimalDigits : Nat → Parser (List Char)
  | 0 => return []
  | count + 1 => do
      match ← peek? with
      | some c =>
          if c.isDigit then
            advanceSpace
            return c :: (← decimalDigits count)
          else return []
      | none => return []

/-- A count, or `none` if there are no digits. Counts beyond 32 bits are refused. -/
def decimal? : Parser (Option Nat) := do
  dropBlanks
  let digits ← decimalDigits (← fuel)
  dropBlanks
  skipSpace
  if digits = [] then return none
  let count := Nat.ofDigitChars 10 digits 0
  if 0xffffffff < count then failure
  return some count

/-- A question mark behind a repetition asks for a short match, or for a long one if the flag `U` is
on. -/
def takeGreed : Parser Bool := do
  let swap := (← flags).swapGreed
  if (← peek?) = some '?' then
    advance
    return swap
  else return !swap

def repeated (item : Item) (least : Nat) (most : Option Nat) : Parser Item := do
  unless item.repeatable do failure
  let greedy ← takeGreed
  return { pattern := item.pattern.repeated least most greedy, depth := item.depth + 1 }

def counted (item : Item) : Parser Item := do
  advanceSpace
  let least ← decimal?
  let c ← current
  let (least, most) ←
    if c = ',' then do
      advanceSpace
      if (← current) = '\x7d' then
        match least with
        | some least => pure (least, none)
        | none => failure
      else
        match least, ← decimal? with
        | some least, some most => pure (least, some most)
        | _, _ => failure
    else
      match least with
      | some count => pure (count, some count)
      | none => failure
  expect '\x7d'
  skipSpace
  if most.any (· < least) then failure
  repeated item least most

def literalItem (c : Char) : Parser Item := do
  return { pattern := .ofSet (← foldSet (CharSet.only c)) }

def dotSet : Parser CharSet := do
  let flags ← flags
  unless flags.unicode do failure
  let excluded : List Nat :=
    if flags.dotAll then [] else if flags.anyLineEnd then [0xa, 0xd] else [0xa]
  return (CharSet.ofCodes excluded).complement

def caret (flags : Flags) : Look :=
  if !flags.multiLine then .textStart
  else if flags.anyLineEnd then .anyLineStart
  else .lineStart

def dollar (flags : Flags) : Look :=
  if !flags.multiLine then .textEnd
  else if flags.anyLineEnd then .anyLineEnd
  else .lineEnd

def primitive : Parser Item := do
  let c ← current
  advance
  match c with
  | '\\' =>
      match ← escape with
      | .literal c => literalItem c
      | .set set => return { pattern := .ofSet set }
      | .look look => return { pattern := .look look }
  | '.' => return { pattern := .ofSet (← dotSet) }
  | '^' => return { pattern := .look (caret (← flags)) }
  | '$' => return { pattern := .look (dollar (← flags)) }
  | c => literalItem c

/-- Two items or more are a level of their own. -/
def levelsOf (items : List Item) : Nat :=
  let inner := (items.map Item.depth).foldl max 0
  if items.length < 2 then inner else inner + 1

def sequenceItem (items : List Item) : Item :=
  { pattern := .sequence (items.map Item.pattern), depth := levelsOf items }

def alternativesItem (items : List Item) : Item :=
  { pattern := .choose (items.map Item.pattern), depth := levelsOf items }

/-- The items up to a bar, a closing parenthesis or the end; `items` are those met, last first. -/
def sequence (group : Parser Item) : Nat → List Item → Parser Item
  | 0, _ => failure
  | count + 1, items => do
      skipSpace
      match ← peek? with
      | none | some '|' | some ')' => return sequenceItem items.reverse
      | some '(' =>
          advance
          sequence group count ((← group) :: items)
      | some '[' =>
          advanceSpace
          let part ← bracket (← fuel)
          sequence group count ({ pattern := .ofSet part.set, depth := part.depth } :: items)
      | some c =>
          if c ∈ ['?', '*', '+', '\x7b'] then
            match items with
            | [] => failure
            | item :: items =>
                let item ←
                  if c = '\x7b' then counted item
                  else do
                    advance
                    repeated item (if c = '+' then 1 else 0) (if c = '?' then some 1 else none)
                sequence group count (item :: items)
          else sequence group count ((← primitive) :: items)

def alternatives (group : Parser Item) : Nat → List Item → Parser Item
  | 0, _ => failure
  | count + 1, items => do
      let item ← sequence group (← fuel) []
      if (← peek?) = some '|' then
        advance
        alternatives group count (item :: items)
      else return alternativesItem (item :: items).reverse

/-- Flags up to a colon or a closing parenthesis; those behind a hyphen are turned off. -/
def flagLetters (flags : Flags) (seen : List Char) (on : Bool) (dangling : Bool) :
    Nat → Parser (Flags × Bool)
  | 0 => failure
  | count + 1 => do
      let c ← current
      if c = ':' ∨ c = ')' then
        if dangling then failure
        return (flags, seen ≠ [])
      if c ∈ seen then failure
      advance
      if c = '-' then flagLetters flags (c :: seen) false true count
      else
        match update flags c on with
        | some flags => flagLetters flags (c :: seen) on false count
        | none => failure
where
  update (flags : Flags) (c : Char) (on : Bool) : Option Flags :=
    match c with
    | 'i' => some { flags with ignoreCase := on }
    | 'm' => some { flags with multiLine := on }
    | 's' => some { flags with dotAll := on }
    | 'U' => some { flags with swapGreed := on }
    | 'u' => some { flags with unicode := on }
    | 'R' => some { flags with anyLineEnd := on }
    | 'x' => some { flags with extended := on }
    | _ => none

def isNameChar (first : Bool) (c : Char) : Bool :=
  c = '_' || CharProperty.isAlphabetic c ||
    (!first && (c = '.' || c = '[' || c = ']' || (Category.ofChar c).inGroup 'N'))

def groupName : Parser Unit := do
  let input ← get
  let name := input.rest.takeWhile (· ≠ '>')
  let valid :=
    match name with
    | [] => false
    | c :: rest => isNameChar true c && rest.all (isNameChar false)
  if !valid ∨ name ∈ input.names then failure
  set { input with rest := input.rest.dropWhile (· ≠ '>'), names := name :: input.names }
  expect '>'

def isLookaround : Parser Bool := do
  let rest := (← get).rest
  return [['?', '='], ['?', '!'], ['?', '<', '='], ['?', '<', '!']].any (·.isPrefixOf rest)

/-- What stands between parentheses. Flags set inside hold up to its end. -/
def groupBody (alternatives : Parser Item) (inner : Flags) : Parser Item := do
  let outer ← flags
  setFlags inner
  let item ← alternatives
  expect ')'
  setFlags outer
  return { item with repeatable := true, depth := item.depth + 1 }

def countedGroup (alternatives : Parser Item) : Parser Item := do
  let number ← nextGroup
  let item ← groupBody alternatives (← flags)
  return { item with pattern := .group number item.pattern }

def group : Nat → Parser Item
  | 0 => failure
  | depth + 1 => do
      let inside := do alternatives (group depth) (← fuel) []
      skipSpace
      if ← isLookaround then failure
      if (← takeText ['?', 'P', '<']) || (← takeText ['?', '<']) then
        groupName
        countedGroup inside
      else if ← takeText ['?'] then
        let (inner, any) ← flagLetters (← flags) [] true false (← fuel)
        let c ← current
        advance
        if c = ')' then
          unless any do failure
          setFlags inner
          return { pattern := .empty, repeatable := false }
        else groupBody inside inner
      else countedGroup inside

def nestLimit : Nat :=
  250

def whole : Parser Pattern := do
  let depth ← fuel
  let item ← alternatives (group depth) (← fuel) []
  unless (← peek?) = none do failure
  if nestLimit < item.depth then failure
  return item.pattern

end PatternSyntax

namespace Pattern

def parse? (source : List Char) (flags : PatternSyntax.Flags) : Option Pattern :=
  (PatternSyntax.whole.run { rest := source, flags, fuel := source.length + 1 }).map Prod.fst

def ofText? (source : List Char) (flags : PatternSyntax.Flags) : Option Pattern :=
  (parse? source flags).filter fits

end Pattern

end Lisplet
