import Lisplet.Regex.Pattern
import Lisplet.Regex.Property

namespace Lisplet

/-! Where a pattern matches. Only the start of the first match is ever asked for, so matching goes
backward: from the places where the rest of a match can start to those where it can start with the
pattern in front. -/

/-- Places in a text, as the bits of a number. -/
abbrev Places := Nat

namespace Places

def all (size : Nat) : Places :=
  (1 <<< (size + 1)) - 1

/-- The places with a property among `1 <<< depth` places from `start` on, which counts as 0. -/
def satisfying (holds : Nat → Bool) : Nat → Nat → Places
  | 0, start => if holds start then 1 else 0
  | depth + 1, start =>
      let half := 1 <<< depth
      satisfying holds depth start ||| satisfying holds depth (start + half) <<< half

def first? (places : Places) : Option Nat :=
  if places = 0 then none else some (places ^^^ (places - 1)).log2

def iterate (step : Places → Places) : Nat → Places → Places
  | 0, places => places
  | count + 1, places => if places = 0 then 0 else iterate step count (step places)

/-- Everything reached in at most the given number of steps, of which `reached` is there already and
`latest` came last. -/
def spread (step : Places → Places) : Nat → Places → Places → Places
  | 0, reached, _ => reached
  | count + 1, reached, latest =>
      let reached' := reached ||| step latest
      if reached' = reached then reached else spread step count reached' (reached' ^^^ reached)

end Places

namespace Look

def letters : CodeRuns Bool :=
  Repertoire.word.edges

def asciiLetters : CodeRuns Bool :=
  CharSet.asciiWord.edges

def inWord (ascii : Bool) (c : Option Char) : Bool :=
  c.any fun c => (if ascii then asciiLetters else letters).holds c.toNat

def holds (before after : Option Char) : Look → Bool
  | textStart => before = none
  | textEnd => after = none
  | lineStart => before = none || before = some '\n'
  | lineEnd => after = none || after = some '\n'
  | anyLineStart =>
      before = none || before = some '\n' || (before = some '\r' && after != some '\n')
  | anyLineEnd =>
      after = none || after = some '\r' || (after = some '\n' && before != some '\r')
  | wordBoundary ascii => inWord ascii before != inWord ascii after
  | notWordBoundary ascii => inWord ascii before == inWord ascii after
  | wordStart ascii => !inWord ascii before && inWord ascii after
  | wordEnd ascii => inWord ascii before && !inWord ascii after
  | wordStartHalf ascii => !inWord ascii before
  | wordEndHalf ascii => !inWord ascii after

end Look

/-- A pattern made ready for one text: conditions on characters have become places. -/
inductive Search where
  | stay (places : Places)
  | read (places : Places)
  | seq (first second : Search)
  | either (left right : Search)
  | times (body : Search) (least : Nat) (most : Option Nat)

namespace Search

/-- Where a match can start if the rest of it can start at the given places of a text of the given
size. -/
def back (size : Nat) : Search → Places → Places
  | stay places, rest => rest &&& places
  | read places, rest => (rest >>> 1) &&& places
  | seq first second, rest => first.back size (second.back size rest)
  | either left right, rest => left.back size rest ||| right.back size rest
  | times body least most, rest =>
      let further :=
        match most with
        | some most => min (most - least) (size + 1)
        | none => size + 1
      Places.iterate (body.back size) least (Places.spread (body.back size) further rest rest)

end Search

namespace Pattern

def before (text : Array Char) (holds : Char → Bool) : Places :=
  Places.satisfying (fun place => text[place]?.any holds) (text.size.log2 + 1) 0

def readingAll : List Places → Search
  | [] => .stay 0
  | [places] => .read places
  | places :: rest => .seq (.read places) (readingAll rest)

def readingText (text : Array Char) (word : List Char) : Search :=
  let known := word.eraseDups.map fun c => (c, before text (· = c))
  readingAll (word.map fun c => (known.lookup c).getD 0)

def readingOneOf (text : Array Char) : List (List Char) → Search
  | [] => .stay 0
  | [word] => readingText text word
  | word :: others => .either (readingText text word) (readingOneOf text others)

def search (text : Array Char) : Pattern → Search
  | empty => .stay (Places.all text.size)
  | literal word => readingText text word
  | set members =>
      let members := members.edges
      .read (before text fun c => members.holds c.toNat)
  | look condition =>
      let previous (place : Nat) := if place = 0 then none else text[place - 1]?
      .stay (Places.all text.size &&&
        Places.satisfying (fun place => condition.holds (previous place) text[place]?)
          (text.size.log2 + 1) 0)
  | group _ body => body.search text
  | times body least most _ => .times (body.search text) least most
  | seq first second => .seq (first.search text) (second.search text)
  | words texts => readingOneOf text texts
  | either left right => .either (left.search text) (right.search text)

def find? (pattern : Pattern) (text : List Char) : Option Nat :=
  let chars := text.toArray
  ((pattern.search chars).back chars.size (Places.all chars.size)).first?

end Pattern

end Lisplet
