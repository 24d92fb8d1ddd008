import Lisplet.Text.CharSet

namespace Lisplet

structure ByteRange where
  first : Nat
  last : Nat
deriving DecidableEq, Repr

namespace Encoding

def ofChar (c : Char) : List Nat :=
  (String.singleton c).toUTF8.toList.map UInt8.toNat

/-- The code points that are written with the same number of bytes, as that number less one with the
mark that the first byte bears; surrogates are left out. -/
def lengths : List (CodeRange × Nat × Nat) :=
  [(⟨0, 0x7f⟩, 0, 0), (⟨0x80, 0x7ff⟩, 1, 0xc0), (⟨0x800, 0xd7ff⟩, 2, 0xe0),
    (⟨0xe000, 0xffff⟩, 2, 0xe0), (⟨0x10000, 0x10ffff⟩, 3, 0xf0)]

/-- A range of code points as sequences of byte ranges, in ascending order. There are `further` bytes
after the one that bears `mark`. Each sequence stands for all ways to choose one byte from each of its
ranges, so a range is cut where it does not take in all that can follow. -/
def sequences (mark : Nat) : Nat → CodeRange → List (List ByteRange)
  | 0, range => [[⟨mark + range.first, mark + range.last⟩]]
  | further + 1, range =>
      let block := 1 <<< (6 * (further + 1))
      let low := range.first / block
      let high := range.last / block
      let under (lead : Nat) (first last : Nat) : List (List ByteRange) :=
        (sequences 0x80 further ⟨first % block, last % block⟩).map
          (⟨mark + lead, mark + lead⟩ :: ·)
      if low = high then under low range.first range.last
      else
        let fullLow := range.first % block = 0
        let fullHigh := range.last % block = block - 1
        let start := if fullLow then low else low + 1
        let stop := if fullHigh then high + 1 else high
        (if fullLow then [] else under low range.first (block - 1)) ++
          (if start < stop then
            (sequences 0x80 further ⟨0, block - 1⟩).map
              (⟨mark + start, mark + stop - 1⟩ :: ·)
          else []) ++
          (if fullHigh then [] else under high 0 range.last)

def ofSet (set : CharSet) : List (List ByteRange) :=
  set.ranges.flatMap fun range =>
    lengths.flatMap fun (bounds, further, mark) =>
      if max range.first bounds.first ≤ min range.last bounds.last then
        sequences mark further ⟨max range.first bounds.first, min range.last bounds.last⟩
      else []

end Encoding

end Lisplet
