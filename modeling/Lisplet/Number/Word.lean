import Lisplet.Number.Text

namespace Lisplet.Word

open NumberText (inRange?)

/-! Integers of 64 bits as a machine computes with them. Division cuts off toward zero. A plain
operation that has no result traps, and nothing catches a trap; a checked one can be asked. -/

/-- The divisor is zero, or the quotient is the one that is out of range. -/
def noQuotient (left right : Int64) : Bool :=
  right = 0 || left = Int64.minValue && right = -1

def checkedDivide (left right : Int64) : Option Int64 :=
  if noQuotient left right then none else some (left / right)

/-- It traps wherever there is no quotient. -/
def remainder? (left right : Int64) : Option Int64 :=
  if noQuotient left right then none else some (left % right)

/-- Where the quotient is out of range, the remainder is zero. -/
def wrappingRemainder? (left right : Int64) : Option Int64 :=
  if right = 0 then none else some (left % right)

def add? (left right : Int64) : Option Int64 :=
  inRange? (left.toInt + right.toInt)

def subtract? (left right : Int64) : Option Int64 :=
  inRange? (left.toInt - right.toInt)

def multiply? (left right : Int64) : Option Int64 :=
  inRange? (left.toInt * right.toInt)

theorem toInt_eq_zero_iff {word : Int64} : word.toInt = 0 ↔ word = 0 :=
  Int64.toInt_inj (y := 0)

variable {left right : Int64}

theorem noQuotient_eq_true_iff :
    noQuotient left right = true ↔ right = 0 ∨ left = Int64.minValue ∧ right = -1 := by
  simp [noQuotient]

theorem ne_zero_of_quotient (h : noQuotient left right = false) : right ≠ 0 := by
  rintro rfl
  cases h

theorem toInt_divide (h : noQuotient left right = false) :
    (left / right).toInt = left.toInt.tdiv right.toInt := by
  by_cases hleft : left = Int64.minValue
  · have hright : right ≠ -1 := by
      rintro rfl
      rw [noQuotient_eq_true_iff.mpr (.inr ⟨hleft, rfl⟩)] at h
      cases h
    exact Int64.toInt_div_of_ne_right left right hright
  · exact Int64.toInt_div_of_ne_left left right hleft

theorem two_le_of_remainder (hremainder : left % right ≠ 0) (hright : right ≠ 0) :
    2 ≤ right.toInt.natAbs := by
  have hinexact : left.toInt.tmod right.toInt ≠ 0 := fun hzero =>
    hremainder (toInt_eq_zero_iff.mp ((Int64.toInt_mod left right).trans hzero))
  have hnonzero : right.toInt ≠ 0 := fun hzero => hright (toInt_eq_zero_iff.mp hzero)
  refine Nat.le_of_not_lt fun hsmall => hinexact ?_
  obtain hone | hminus : right.toInt = 1 ∨ right.toInt = -1 := by omega
  · rw [hone, Int.tmod_one]
  · rw [hminus, Int.tmod_neg, Int.tmod_one]

/-- A quotient that is not exact lies so deep in the range that one can be taken from it. -/
theorem isSome_subtract?_divide (h : noQuotient left right = false)
    (hremainder : left % right ≠ 0) : (subtract? (left / right) 1).isSome = true := by
  have hquotient : (left.toInt.tdiv right.toInt).natAbs ≤ left.toInt.natAbs / 2 := by
    rw [Int.natAbs_tdiv]
    exact Nat.div_le_div_left (two_le_of_remainder hremainder (ne_zero_of_quotient h)) (by decide)
  have hleast := left.le_toInt
  have hmost := left.toInt_lt
  have hone : (1 : Int64).toInt = 1 := rfl
  rw [subtract?, toInt_divide h, hone, NumberText.isSome_inRange?]
  omega

theorem isSome_add?_of_signs (h : ¬(left < 0 ↔ right < 0)) : (add? left right).isSome = true := by
  have hzero : (0 : Int64).toInt = 0 := rfl
  rw [Int64.lt_iff_toInt_lt, Int64.lt_iff_toInt_lt, hzero] at h
  have hleast := left.le_toInt
  have hmost := left.toInt_lt
  have hleast' := right.le_toInt
  have hmost' := right.toInt_lt
  rw [add?, NumberText.isSome_inRange?]
  omega

end Lisplet.Word
