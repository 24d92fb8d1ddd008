namespace Lisplet

/-! Doubles taken apart into a natural number times a power of two, and rationals rounded back. -/

inductive Binary64 where
  | nan
  | infinite (negative : Bool)
  /-- The number `mantissa · 2 ^ exponent` with a sign of its own, so that zero has two forms. -/
  | finite (negative : Bool) (mantissa : Nat) (exponent : Int)
deriving DecidableEq, Inhabited, Repr

namespace Binary64

def twoTo (exponent : Nat) : Nat :=
  Nat.pow 2 exponent

def leastExponent : Int :=
  -1074

def hiddenBit : Nat :=
  twoTo 52

def ofFloat (value : Float) : Binary64 :=
  let bits := value.toBits.toNat
  let negative := decide (twoTo 63 ≤ bits)
  let biased := bits / hiddenBit % 2048
  let fraction := bits % hiddenBit
  if biased = 2047 then
    if fraction = 0 then infinite negative else nan
  else if biased = 0 then finite negative fraction leastExponent
  else finite negative (hiddenBit + fraction) (leastExponent + (biased - 1 : Nat))

def pack (negative : Bool) (magnitude : Nat) : Float :=
  Float.ofBits (UInt64.ofNat ((if negative then twoTo 63 else 0) + magnitude))

def infinityBits : Nat :=
  2047 * hiddenBit

/-- A quotient rounded to the nearest natural number, a tie to the even one. -/
def divideRounded (numerator denominator : Nat) : Nat :=
  let quotient := numerator / denominator
  let twice := 2 * (numerator % denominator)
  if twice < denominator then quotient
  else if denominator < twice then quotient + 1
  else quotient + quotient % 2

/-- The greatest `k` with `2 ^ k ≤ numerator / denominator`, both positive. -/
def floorLog2 (numerator denominator : Nat) : Int :=
  let estimate : Int := numerator.log2 - denominator.log2
  if denominator * twoTo estimate.toNat ≤ numerator * twoTo (-estimate).toNat then estimate
  else estimate - 1

def ofRatio (negative : Bool) (numerator denominator : Nat) : Float :=
  let exponent := max (floorLog2 numerator denominator - 52) leastExponent
  let mantissa :=
    divideRounded (numerator * twoTo (-exponent).toNat) (denominator * twoTo exponent.toNat)
  -- A mantissa that rounds up to the next power of two carries into the exponent bits.
  let magnitude := (exponent - leastExponent).toNat * hiddenBit + mantissa
  pack negative (min magnitude infinityBits)

/-- The remainder of the quotient cut off toward zero; it has the sign of the dividend. -/
def remainder (dividend divisor : Float) : Float :=
  match ofFloat dividend, ofFloat divisor with
  | finite negative mantissa exponent, finite _ mantissa' exponent' =>
      if mantissa' = 0 then 0.0 / 0.0
      else
        let exponentMin := min exponent exponent'
        let left := mantissa * twoTo (exponent - exponentMin).toNat
        let right := mantissa' * twoTo (exponent' - exponentMin).toNat
        let rest := left % right
        if rest = 0 then pack negative 0
        else
          ofRatio negative (rest * twoTo exponentMin.toNat) (twoTo (-exponentMin).toNat)
  | finite _ _ _, infinite _ => dividend
  | _, _ => 0.0 / 0.0

end Binary64

end Lisplet
