import Lisplet.Number.Decimal

namespace Lisplet

/-! How numbers are written and which texts are numbers. -/

namespace NumberText

def ofInt (value : Int64) : String :=
  if value.toInt < 0 then "-" ++ value.toInt.natAbs.repr else value.toInt.natAbs.repr

structure FloatStyle where
  /-- The exponents of the first digit for which no power of ten is written. -/
  positional : Int → Bool
  keepPoint : Bool

/-- From `0.0001` up to below `10 ^ 16` in full; a float always shows that it is one. -/
def readable : FloatStyle :=
  ⟨fun leading => -4 ≤ leading && leading < 16, true⟩

def plain : FloatStyle :=
  ⟨fun _ => true, false⟩

def positional (keepPoint : Bool) (digits : List Char) (leading : Int) : List Char :=
  if leading < 0 then
    ['0', '.'] ++ List.replicate (-leading - 1).toNat '0' ++ digits
  else
    let whole := digits.take (leading.toNat + 1)
    let fraction := digits.drop (leading.toNat + 1)
    whole ++ List.replicate (leading.toNat + 1 - digits.length) '0' ++
      (if fraction = [] then (if keepPoint then ['.', '0'] else []) else '.' :: fraction)

def exponential (digits : List Char) (leading : Int) : List Char :=
  digits.take 1 ++ (if digits.length ≤ 1 then [] else '.' :: digits.drop 1) ++ ['e'] ++
    (if leading < 0 then ['-'] else []) ++ Nat.toDigits 10 leading.natAbs

def signed (negative : Bool) (text : String) : String :=
  if negative then "-" ++ text else text

def ofFloat (style : FloatStyle) (value : Float) : String :=
  match Binary64.ofFloat value with
  | .nan => "NaN"
  | .infinite negative => signed negative "inf"
  | .finite negative 0 _ => signed negative (if style.keepPoint then "0.0" else "0")
  | .finite negative mantissa exponent =>
      let decimal := Decimal.shortest mantissa exponent
      let digits := Decimal.significant decimal.digits
      let leading := decimal.leading
      signed negative <| String.ofList <|
        if style.positional leading then positional style.keepPoint digits leading
        else exponential digits leading

/-! Reading: an optional sign, then digits; a float may have a fraction, an exponent or a name. -/

def isDigit (c : Char) : Bool :=
  '0' ≤ c && c ≤ '9'

def splitSign : List Char → Bool × List Char
  | '-' :: rest => (true, rest)
  | '+' :: rest => (false, rest)
  | text => (false, text)

def ofDigits (digits : List Char) : Nat :=
  Nat.ofDigitChars 10 digits 0

def inRange? (value : Int) : Option Int64 :=
  if Int64.minValue.toInt ≤ value ∧ value ≤ Int64.maxValue.toInt then some (Int64.ofInt value)
  else none

theorem inRange?_eq_some {value : Int} {word : Int64} :
    inRange? value = some word ↔ word.toInt = value := by
  have hmost : Int64.maxValue.toInt = 2 ^ 63 - 1 := by decide
  unfold inRange?
  split
  · rename_i h
    have hword : (Int64.ofInt value).toInt = value :=
      Int64.toInt_ofInt_of_le (Int64.toInt_minValue ▸ h.1) (by omega)
    rw [Option.some.injEq, ← Int64.toInt_inj, hword]
    exact eq_comm
  · rename_i h
    constructor
    · intro hnone
      cases hnone
    · rintro rfl
      exact absurd ⟨word.minValue_le_toInt, word.toInt_le⟩ h

theorem isSome_inRange? {value : Int} :
    (inRange? value).isSome = true ↔
      -9223372036854775808 ≤ value ∧ value < 9223372036854775808 := by
  rw [Option.isSome_iff_exists]
  constructor
  · rintro ⟨word, hword⟩
    rw [← inRange?_eq_some.mp hword]
    exact ⟨word.le_toInt, word.toInt_lt⟩
  · rintro ⟨hleast, hmost⟩
    exact ⟨Int64.ofInt value, inRange?_eq_some.mpr (Int64.toInt_ofInt_of_le hleast hmost)⟩

def toInt? (text : List Char) : Option Int64 :=
  let (negative, digits) := splitSign text
  if digits ≠ [] ∧ digits.all isDigit then
    inRange? (if negative then -(ofDigits digits : Int) else ofDigits digits)
  else none

/-- The exponent after an `e`; no exponent at all counts as zero. -/
def toExponent? : List Char → Option Int
  | [] => some 0
  | mark :: text =>
      let (negative, digits) := splitSign text
      if (mark = 'e' ∨ mark = 'E') ∧ digits ≠ [] ∧ digits.all isDigit then
        some (if negative then -(ofDigits digits : Int) else ofDigits digits)
      else none

def splitFraction : List Char → List Char × List Char
  | '.' :: rest => (rest.takeWhile isDigit, rest.dropWhile isDigit)
  | text => ([], text)

def toDecimal? (text : List Char) : Option Decimal :=
  let whole := text.takeWhile isDigit
  let (fraction, rest) := splitFraction (text.dropWhile isDigit)
  if whole = [] ∧ fraction = [] then none
  else
    (toExponent? rest).map fun exponent =>
      ⟨ofDigits (whole ++ fraction), exponent - fraction.length⟩

def toFloat? (text : List Char) : Option Float :=
  let (negative, rest) := splitSign text
  let name := rest.map Char.toLower
  if name = "inf".toList ∨ name = "infinity".toList then
    some (Binary64.pack negative Binary64.infinityBits)
  else if name = "nan".toList then some (0.0 / 0.0)
  else (toDecimal? rest).map (Decimal.toFloat negative)

end NumberText

end Lisplet
