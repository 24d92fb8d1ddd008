import Lisplet.Number.Binary64

namespace Lisplet

/-! Decimal numbers: the shortest one that stands for a double, and the double nearest to one. -/

/-- The number `digits · 10 ^ exponent`. -/
structure Decimal where
  digits : Nat
  exponent : Int
deriving DecidableEq, Inhabited, Repr

namespace Decimal

def tenTo (exponent : Nat) : Nat :=
  Nat.pow 10 exponent

/-- The reals that round to `mantissa · 2 ^ exponent`, in quarters of its last place. The gap
below a power of two is half as wide as the gap above; the ends belong to an even mantissa. -/
structure Interval where
  low : Nat
  centre : Nat
  high : Nat
  closed : Bool
  /-- A quarter of the last place is `unitNumerator / unitDenominator`. -/
  unitNumerator : Nat
  unitDenominator : Nat

def Interval.ofBinary (mantissa : Nat) (exponent : Int) : Interval :=
  let narrow := mantissa = Binary64.hiddenBit ∧ exponent ≠ Binary64.leastExponent
  { low := 4 * mantissa - (if narrow then 1 else 2)
    centre := 4 * mantissa
    high := 4 * mantissa + 2
    closed := mantissa % 2 = 0
    unitNumerator := Binary64.twoTo (exponent - 2).toNat
    unitDenominator := Binary64.twoTo (2 - exponent).toNat }

namespace Interval

/-- `numerator` quarters over `scaleDenominator` are measured in steps of `10 ^ grid`. -/
def scaleNumerator (interval : Interval) (grid : Int) : Nat :=
  interval.unitNumerator * tenTo (-grid).toNat

def scaleDenominator (interval : Interval) (grid : Int) : Nat :=
  interval.unitDenominator * tenTo grid.toNat

def contains (interval : Interval) (grid : Int) (digits : Nat) : Bool :=
  let low := interval.low * interval.scaleNumerator grid
  let high := interval.high * interval.scaleNumerator grid
  let point := digits * interval.scaleDenominator grid
  if interval.closed then low ≤ point && point ≤ high else low < point && point < high

/-- The point of the grid in the interval that is nearest to the centre, a tie going up. -/
def nearest? (interval : Interval) (grid : Int) : Option Nat :=
  let centre := interval.centre * interval.scaleNumerator grid
  let step := interval.scaleDenominator grid
  let below := centre / step
  match interval.contains grid below, interval.contains grid (below + 1) with
  | true, true =>
      if centre - below * step < (below + 1) * step - centre then some below else some (below + 1)
  | true, false => some below
  | false, true => some (below + 1)
  | false, false => none

def coarsest (interval : Interval) : Nat → Int → Decimal
  | 0, grid =>
      ⟨interval.centre * interval.scaleNumerator grid / interval.scaleDenominator grid, grid⟩
  | tries + 1, grid =>
      match interval.nearest? grid with
      | some digits => ⟨digits, grid⟩
      | none => interval.coarsest tries (grid - 1)

end Interval

/-- An integer at least as great as the decimal logarithm of `mantissa · 2 ^ exponent`. -/
def logarithmBound (mantissa : Nat) (exponent : Int) : Int :=
  ((mantissa.log2 + exponent + 1) * 30103).fdiv 100000 + 1

def shortest (mantissa : Nat) (exponent : Int) : Decimal :=
  (Interval.ofBinary mantissa exponent).coarsest 22 (logarithmBound mantissa exponent)

def significant (digits : Nat) : List Char :=
  ((Nat.toDigits 10 digits).reverse.dropWhile (· = '0')).reverse

def leading (decimal : Decimal) : Int :=
  decimal.exponent + (Nat.toDigits 10 decimal.digits).length - 1

/-- The double nearest to a decimal; outside of `10 ^ -330` to `10 ^ 310` that is zero or
infinity. -/
def toFloat (negative : Bool) (decimal : Decimal) : Float :=
  if decimal.digits = 0 then Binary64.pack negative 0
  else if decimal.leading < -330 then Binary64.pack negative 0
  else if 310 < decimal.leading then Binary64.pack negative Binary64.infinityBits
  else
    Binary64.ofRatio negative (decimal.digits * tenTo decimal.exponent.toNat)
      (tenTo (-decimal.exponent).toNat)

end Decimal

end Lisplet
