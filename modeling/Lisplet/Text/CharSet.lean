import Lisplet.Text.CodeRuns

namespace Lisplet

/-! Sets of characters, as ranges of code points. -/

def CodeRuns.holds (table : CodeRuns Bool) (code : Nat) : Bool :=
  (table.get? code).getD false

structure CodeRange where
  first : Nat
  last : Nat
deriving DecidableEq, Repr

namespace CodeRange

/-- Puts a range in front of ranges that start no earlier. Where no gap is left, two become one. -/
def before (range : CodeRange) : List CodeRange → List CodeRange
  | [] => [range]
  | next :: rest =>
      if next.first ≤ range.last + 1 then before ⟨range.first, max range.last next.last⟩ rest
      else range :: before next rest

def arrange (ranges : List CodeRange) : List CodeRange :=
  match ranges.mergeSort fun left right => left.first ≤ right.first with
  | [] => []
  | range :: rest => range.before rest

def common : List CodeRange → List CodeRange → List CodeRange
  | left :: lefts, right :: rights =>
      let rest :=
        if left.last < right.last then common lefts (right :: rights)
        else common (left :: lefts) rights
      if max left.first right.first ≤ min left.last right.last then
        ⟨max left.first right.first, min left.last right.last⟩ :: rest
      else rest
  | _, _ => []
termination_by lefts rights => lefts.length + rights.length

/-- The next code point that is a character; surrogates are none. -/
def following (code : Nat) : Nat :=
  if code = 0xd7ff then 0xe000 else code + 1

def preceding (code : Nat) : Nat :=
  if code = 0xe000 then 0xd7ff else code - 1

def gaps (start : Nat) : List CodeRange → List CodeRange
  | [] => if start ≤ 0x10ffff then [⟨start, 0x10ffff⟩] else []
  | range :: rest =>
      let further := gaps (following range.last) rest
      if start < range.first then ⟨start, preceding range.first⟩ :: further else further

def ofWord (word : List Char) : CodeRange :=
  let first := CodeText.toCode (word.takeWhile CodeText.isHexDigit)
  match word.dropWhile CodeText.isHexDigit with
  | _ :: last => ⟨first, CodeText.toCode last⟩
  | [] => ⟨first, first⟩

end CodeRange

/-- The ranges of a set are arranged: they ascend, and there is a gap after each. -/
structure CharSet where
  ranges : List CodeRange
deriving DecidableEq, Repr

namespace CharSet

def ofRanges (ranges : List CodeRange) : CharSet :=
  ⟨CodeRange.arrange ranges⟩

def ofCodes (codes : List Nat) : CharSet :=
  ofRanges (codes.map fun code => ⟨code, code⟩)

/-- Ranges and code points as text, such as `41-5a aa`. -/
def ofText (text : String) : CharSet :=
  ofRanges ((CodeText.words text).map CodeRange.ofWord)

def nothing : CharSet :=
  ⟨[]⟩

def anything : CharSet :=
  ⟨[⟨0, 0x10ffff⟩]⟩

def only (c : Char) : CharSet :=
  ⟨[⟨c.toNat, c.toNat⟩]⟩

def range (first last : Char) : CharSet :=
  ⟨[⟨first.toNat, last.toNat⟩]⟩

def contains (set : CharSet) (c : Char) : Bool :=
  set.ranges.any fun range => range.first ≤ c.toNat && c.toNat ≤ range.last

def union (left right : CharSet) : CharSet :=
  ofRanges (left.ranges ++ right.ranges)

def unions (sets : List CharSet) : CharSet :=
  ofRanges (sets.flatMap ranges)

def inter (left right : CharSet) : CharSet :=
  ⟨CodeRange.common left.ranges right.ranges⟩

def complement (set : CharSet) : CharSet :=
  ⟨CodeRange.gaps 0 set.ranges⟩

def minus (left right : CharSet) : CharSet :=
  left.inter right.complement

def differ (left right : CharSet) : CharSet :=
  (left.union right).minus (left.inter right)

def negate (negated : Bool) (set : CharSet) : CharSet :=
  if negated then set.complement else set

def edges (set : CharSet) : CodeRuns Bool :=
  ⟨((0, false) ::
    set.ranges.flatMap fun range => [(range.first, true), (range.last + 1, false)]).toArray⟩

def close (pairs : List (Nat × Nat)) (set : CharSet) : CharSet :=
  let members := set.edges
  let met := pairs.filter fun (code, partner) => members.holds code || members.holds partner
  let partners := ofCodes (met.map Prod.snd)
  let shared := partners.edges
  let sources := pairs.filter fun (_, partner) => shared.holds partner
  unions [set, partners, ofCodes (sources.map Prod.fst)]

end CharSet

def CodeRuns.toSet (table : CodeRuns α) (holds : α → Bool) : CharSet :=
  .ofRanges (collect table.runs.toList)
where
  collect : List (Nat × α) → List CodeRange
    | [] => []
    | (start, label) :: rest =>
        let last :=
          match rest with
          | (next, _) :: _ => next - 1
          | [] => 0x10ffff
        if holds label then ⟨start, last⟩ :: collect rest else collect rest

end Lisplet
