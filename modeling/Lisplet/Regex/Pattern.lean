import Lisplet.Text.CharSet

namespace Lisplet

/-! Patterns. They are built by functions that bring equivalent forms together, so that the size of a
pattern does not depend on how it was written. -/

/-- A condition on the characters before and after a place in a text. Words are made of the letters
of all scripts or of those of ASCII alone. -/
inductive Look where
  | textStart
  | textEnd
  | lineStart
  | lineEnd
  /-- Lines that end in `\r`, in `\n` or in both, which then belong together. -/
  | anyLineStart
  | anyLineEnd
  | wordBoundary (ascii : Bool)
  | notWordBoundary (ascii : Bool)
  | wordStart (ascii : Bool)
  | wordEnd (ascii : Bool)
  | wordStartHalf (ascii : Bool)
  | wordEndHalf (ascii : Bool)
deriving DecidableEq, Repr

inductive Pattern where
  | empty
  | literal (text : List Char)
  | set (members : CharSet)
  | look (condition : Look)
  | group (number : Nat) (body : Pattern)
  /-- From `least` up to `most` times, or without an upper bound. -/
  | times (body : Pattern) (least : Nat) (most : Option Nat) (greedy : Bool)
  | seq (first second : Pattern)
  | words (texts : List (List Char))
  | either (left right : Pattern)
deriving DecidableEq, Repr

namespace Pattern

def matchesOnlyEmpty : Pattern → Bool
  | empty | look _ => true
  | literal _ | set _ | words _ => false
  | group _ body | times body _ _ _ => body.matchesOnlyEmpty
  | seq first second => first.matchesOnlyEmpty && second.matchesOnlyEmpty
  | either left right => left.matchesOnlyEmpty && right.matchesOnlyEmpty

/-- The length of the shortest match; a set without members leaves none. -/
def minLength : Pattern → Option Nat
  | empty | look _ => some 0
  | literal text => some text.length
  | set members => if members.ranges = [] then none else some 1
  | words texts => (texts.map List.length).min?
  | group _ body => body.minLength
  | times body least _ _ => body.minLength.map (· * least)
  | seq first second => do return (← first.minLength) + (← second.minLength)
  | either left right => do return min (← left.minLength) (← right.minLength)

def startsText : Pattern → Bool
  | look condition => condition = .textStart
  | group _ body => body.startsText
  | times body least _ _ => 0 < least && body.startsText
  | seq first second => first.startsText || (first.matchesOnlyEmpty && second.startsText)
  | either left right => left.startsText && right.startsText
  | empty | literal _ | set _ | words _ => false

def endsText : Pattern → Bool
  | look condition => condition = .textEnd
  | group _ body => body.endsText
  | times body least _ _ => 0 < least && body.endsText
  | seq first second => second.endsText || (second.matchesOnlyEmpty && first.endsText)
  | either left right => left.endsText && right.endsText
  | empty | literal _ | set _ | words _ => false

def ofSet (members : CharSet) : Pattern :=
  match members.ranges with
  | [range] => if range.first = range.last then literal [Char.ofNat range.first] else set members
  | _ => set members

/-- Repeating what matches only the empty text once is as good as any number of times. -/
def repeated (body : Pattern) (least : Nat) (most : Option Nat) (greedy : Bool) : Pattern :=
  let (least, most) :=
    if body.matchesOnlyEmpty then (min least 1, some (min (most.getD 1) 1)) else (least, most)
  if most = some 0 then empty
  else if least = 1 ∧ most = some 1 then body
  else times body least most greedy

def parts : Pattern → List Pattern
  | empty => []
  | seq first second => first :: second.parts
  | pattern => [pattern]

def ofParts : List Pattern → Pattern
  | [] => empty
  | [part] => part
  | part :: parts => seq part (ofParts parts)

def joinLiterals : List Pattern → List Pattern
  | [] => []
  | part :: rest =>
      match part, joinLiterals rest with
      | literal text, literal more :: rest => literal (text ++ more) :: rest
      | part, rest => part :: rest

def sequence (patterns : List Pattern) : Pattern :=
  ofParts (joinLiterals (patterns.flatMap parts))

def alternatives : Pattern → List Pattern
  | words texts => texts.map literal
  | either left right => left :: right.alternatives
  | pattern => [pattern]

def literal? : Pattern → Option (List Char)
  | literal text => some text
  | _ => none

def set? : Pattern → Option CharSet
  | set members => some members
  | _ => none

def ofEither : List Pattern → Pattern
  | [] => set .nothing
  | [pattern] => pattern
  | pattern :: patterns => either pattern (ofEither patterns)

/-- Alternatives that are all characters or all sets are a set. -/
def merged? (patterns : List Pattern) : Option Pattern :=
  match patterns.mapM literal?, patterns.mapM set? with
  | some texts, _ =>
      if texts.all (·.length = 1) then
        some (ofSet (.ofCodes (texts.flatMap fun text => text.map Char.toNat)))
      else none
  | none, some sets => some (ofSet (.unions sets))
  | none, none => none

def sharedLength : List Pattern → List Pattern → Nat
  | left :: lefts, right :: rights => if left = right then sharedLength lefts rights + 1 else 0
  | _, _ => 0

/-- How many parts all alternatives, each of which has at least two, start with. -/
def liftable (patterns : List Pattern) : Nat :=
  match patterns.map parts with
  | [] => 0
  | first :: others =>
      if (first :: others).all (2 ≤ ·.length) then
        others.foldl (fun count other => min count (sharedLength first other)) first.length
      else 0

/-- The alternatives in their order as one pattern; what all of them start with is taken out in
front. -/
def chooseWithin : Nat → List Pattern → Pattern
  | 0, patterns => ofEither patterns
  | fuel + 1, patterns =>
      match patterns.flatMap alternatives with
      | [pattern] => pattern
      | patterns =>
          match merged? patterns, patterns.mapM literal?, liftable patterns with
          | some pattern, _, _ => pattern
          | none, some texts, _ => words texts
          | none, none, 0 => ofEither patterns
          | none, none, count =>
              let shared := ((patterns.head?.map parts).getD []).take count
              let rests := patterns.map fun pattern => sequence (pattern.parts.drop count)
              sequence (shared ++ [chooseWithin fuel rests])

def weight : Pattern → Nat
  | empty | literal _ | set _ | look _ | words _ => 1
  | group _ body | times body _ _ _ => body.weight + 1
  | seq first second => first.weight + second.weight + 1
  | either left right => left.weight + right.weight + 1

def choose (patterns : List Pattern) : Pattern :=
  chooseWithin (patterns.foldl (fun total pattern => total + pattern.weight) 1) patterns

end Pattern

end Lisplet
