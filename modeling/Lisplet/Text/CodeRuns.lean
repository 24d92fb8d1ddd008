namespace Lisplet

/-! Functions of a code point that are constant over long ranges. Tables are kept as text, with code
points in hexadecimal. -/

namespace CodeText

def hexDigit (c : Char) : Nat :=
  if '0' ≤ c ∧ c ≤ '9' then c.toNat - '0'.toNat else c.toNat - 'a'.toNat + 10

def isHexDigit (c : Char) : Bool :=
  ('0' ≤ c && c ≤ '9') || ('a' ≤ c && c ≤ 'f')

def toCode (digits : List Char) : Nat :=
  digits.foldl (fun code digit => 16 * code + hexDigit digit) 0

def words (text : String) : List (List Char) :=
  let (word, words) := text.toList.foldr
    (fun c (word, words) =>
      if c = ' ' ∨ c = '\n' then ([], if word = [] then words else word :: words)
      else (c :: word, words))
    ([], [])
  if word = [] then words else word :: words

end CodeText

/-- A label for every code point: each entry holds from its start up to the next entry. -/
structure CodeRuns (α : Type) where
  runs : Array (Nat × α)

namespace CodeRuns

/-- Entries are words such as `41Lu`: a start and a label. -/
def ofText (label : String → α) (text : String) : CodeRuns α :=
  ⟨((CodeText.words text).map fun word =>
    (CodeText.toCode (word.takeWhile CodeText.isHexDigit),
      label (String.ofList (word.dropWhile CodeText.isHexDigit)))).toArray⟩

/-- The last entry from `low` up to below `low + 2 ^ steps` that starts at or before `code`,
if the one at `low` does. -/
def search (table : CodeRuns α) (code : Nat) : Nat → Nat → Nat
  | 0, low => low
  | steps + 1, low =>
      let middle := low + (1 <<< steps)
      match table.runs[middle]? with
      | some (start, _) =>
          if start ≤ code then table.search code steps middle else table.search code steps low
      | none => table.search code steps low

def get? (table : CodeRuns α) (code : Nat) : Option α :=
  (table.runs[table.search code (table.runs.size.log2 + 1) 0]?).map (·.2)

def find? (table : CodeRuns α) (c : Char) : Option α :=
  table.get? c.toNat

end CodeRuns

end Lisplet
