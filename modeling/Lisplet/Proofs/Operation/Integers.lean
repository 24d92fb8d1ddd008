import Lisplet.Operation.Basic
import Mathlib.Data.Rat.Floor

namespace Lisplet

/-! Arithmetic on two integers is exact, or it says why it has no result. -/

namespace Word

variable {left right : Int64}

/-- A division whose remainder lies on the side of the divisor. -/
structure Floors (left right quotient remainder : Int) : Prop where
  eq : left = right * quotient + remainder
  side : (0 ≤ remainder ∧ remainder < right) ∨ (right < remainder ∧ remainder ≤ 0)

namespace Floors

variable {left right quotient remainder : Int}

theorem floor_eq (h : Floors left right quotient remainder) :
    ⌊(left : ℚ) / right⌋ = quotient := by
  have hright : (right : ℚ) ≠ 0 := by
    rcases h.side with hside | hside <;> exact_mod_cast (by omega : right ≠ 0)
  have hdivided : (left : ℚ) / right = quotient + (remainder : ℚ) / right := by
    rw [h.eq]
    push_cast
    field_simp
  rw [hdivided, Int.floor_intCast_add, add_eq_left, Int.floor_eq_zero_iff, Set.mem_Ico]
  rcases h.side with ⟨hleast, hless⟩ | ⟨hless, hmost⟩
  · have hpositive : (0 : ℚ) < right := by exact_mod_cast (by omega : 0 < right)
    exact ⟨div_nonneg (by exact_mod_cast hleast) hpositive.le,
      (div_lt_one hpositive).mpr (by exact_mod_cast hless)⟩
  · have hnegative : (right : ℚ) < 0 := by exact_mod_cast (by omega : right < 0)
    exact ⟨div_nonneg_of_nonpos (by exact_mod_cast hmost) hnegative.le,
      (div_lt_one_of_neg hnegative).mpr (by exact_mod_cast hless)⟩

theorem sign_eq (h : Floors left right quotient remainder) (hinexact : remainder ≠ 0) :
    remainder.sign = right.sign := by
  rcases h.side with ⟨hleast, hless⟩ | ⟨hless, hmost⟩
  · rw [Int.sign_eq_one_of_pos (by omega), Int.sign_eq_one_of_pos (by omega)]
  · rw [Int.sign_eq_neg_one_of_neg (by omega), Int.sign_eq_neg_one_of_neg (by omega)]

theorem abs_lt (h : Floors left right quotient remainder) : |remainder| < |right| := by
  rcases h.side with ⟨hleast, hless⟩ | ⟨hless, hmost⟩
  · rwa [abs_of_nonneg hleast, abs_of_nonneg (by omega)]
  · rw [abs_of_nonpos hmost, abs_of_nonpos (by omega)]
    omega

end Floors

theorem tmod_bounds (left : Int) {right : Int} (h : right ≠ 0) :
    (left.tmod right).natAbs < right.natAbs ∧ (0 ≤ left → 0 ≤ left.tmod right) ∧
      (left ≤ 0 → left.tmod right ≤ 0) := by
  refine ⟨?_, Int.tmod_nonneg right, fun hleft => ?_⟩
  · rw [Int.natAbs_tmod]
    exact Nat.mod_lt _ (by omega)
  · have hopposite := Int.tmod_nonneg right (Int.neg_nonneg_of_nonpos hleft)
    rw [Int.neg_tmod] at hopposite
    omega

section Cut

variable {left right : Int}

theorem floors_of_signs (h : right ≠ 0) (hinexact : left.tmod right ≠ 0)
    (hsigns : ¬(left < 0 ↔ right < 0)) :
    Floors left right (left.tdiv right - 1) (left.tmod right + right) := by
  obtain ⟨hsize, hnonneg, hnonpos⟩ := tmod_bounds left h
  have hdivided := Int.tmod_add_mul_tdiv left right
  refine ⟨?_, by omega⟩
  rw [Int.mul_sub]
  omega

theorem floors_of_cut (h : right ≠ 0)
    (hright : ¬(left.tmod right ≠ 0 ∧ ¬(left < 0 ↔ right < 0))) :
    Floors left right (left.tdiv right) (left.tmod right) := by
  obtain ⟨hsize, hnonneg, hnonpos⟩ := tmod_bounds left h
  have hdivided := Int.tmod_add_mul_tdiv left right
  exact ⟨by omega, by omega⟩

theorem tmod_neg_iff (h : right ≠ 0) (hinexact : left.tmod right ≠ 0) :
    left.tmod right < 0 ↔ left < 0 := by
  obtain ⟨_, hnonneg, hnonpos⟩ := tmod_bounds left h
  omega

end Cut

end Word

namespace Arithmetic

open NumberText Word

variable {left right : Int64}

theorem neg_iff {word : Int64} : word < 0 ↔ word.toInt < 0 :=
  Int64.lt_iff_toInt_lt

theorem remainder_ne_zero_iff : left % right ≠ 0 ↔ left.toInt.tmod right.toInt ≠ 0 := by
  rw [← Int64.toInt_mod]
  exact (not_congr toInt_eq_zero_iff).symm

theorem quotientSteps_floors (operation : String) (h : noQuotient left right = false) :
    ∃ quotient : Int64, quotientSteps operation left right = some (.ok (.int quotient)) ∧
      ∃ remainder, Floors left.toInt right.toInt quotient.toInt remainder := by
  have hright : right.toInt ≠ 0 := fun hzero => ne_zero_of_quotient h (toInt_eq_zero_iff.mp hzero)
  rw [quotientSteps_of_quotient operation h]
  by_cases hround : left % right ≠ 0 ∧ ¬(left < 0 ↔ right < 0)
  · obtain ⟨quotient, hquotient⟩ :=
      Option.isSome_iff_exists.mp (isSome_subtract?_divide h hround.1)
    rw [if_pos hround, hquotient]
    refine ⟨quotient, rfl, left.toInt.tmod right.toInt + right.toInt, ?_⟩
    rw [inRange?_eq_some.mp hquotient, toInt_divide h]
    rw [remainder_ne_zero_iff, neg_iff, neg_iff] at hround
    exact floors_of_signs hright hround.1 hround.2
  · rw [if_neg hround]
    refine ⟨left / right, rfl, left.toInt.tmod right.toInt, ?_⟩
    rw [toInt_divide h]
    rw [remainder_ne_zero_iff, neg_iff, neg_iff] at hround
    exact floors_of_cut hright hround

theorem remainderSteps_floors (hzero : right ≠ 0) :
    ∃ remainder : Int64, remainderSteps left right = some (.ok (.int remainder)) ∧
      ∃ quotient, Floors left.toInt right.toInt quotient remainder.toInt := by
  have hright : right.toInt ≠ 0 := fun h => hzero (toInt_eq_zero_iff.mp h)
  have hsigns : left.toInt.tmod right.toInt ≠ 0 →
      ((left % right < 0 ↔ right < 0) ↔ (left.toInt < 0 ↔ right.toInt < 0)) := by
    intro hinexact
    rw [neg_iff, neg_iff, Int64.toInt_mod, tmod_neg_iff hright hinexact]
  rw [remainderSteps_of_ne_zero hzero]
  by_cases hround : left % right ≠ 0 ∧ ¬(left % right < 0 ↔ right < 0)
  · obtain ⟨remainder, hremainder⟩ := Option.isSome_iff_exists.mp (isSome_add?_of_signs hround.2)
    rw [if_pos hround, hremainder]
    refine ⟨remainder, rfl, left.toInt.tdiv right.toInt - 1, ?_⟩
    rw [inRange?_eq_some.mp hremainder, Int64.toInt_mod]
    have hinexact := remainder_ne_zero_iff.mp hround.1
    exact floors_of_signs hright hinexact ((not_congr (hsigns hinexact)).mp hround.2)
  · rw [if_neg hround]
    refine ⟨left % right, rfl, left.toInt.tdiv right.toInt, ?_⟩
    rw [Int64.toInt_mod]
    refine floors_of_cut hright ?_
    rintro ⟨hinexact, hopposite⟩
    exact hround ⟨remainder_ne_zero_iff.mpr hinexact,
      (not_congr (hsigns hinexact)).mpr hopposite⟩

def InRange (number : Int) : Prop :=
  -2 ^ 63 ≤ number ∧ number < 2 ^ 63

instance (number : Int) : Decidable (InRange number) :=
  inferInstanceAs (Decidable (_ ∧ _))

theorem isSome_inRange?_iff {number : Int} :
    (inRange? number).isSome = true ↔ InRange number :=
  isSome_inRange?

/-- The number itself, or an overflow if no word can hold it. -/
structure Delivers (operation : String) (number : Int) (result : Except Error Value) : Prop where
  exact : InRange number → ∃ word : Int64, result = .ok (.int word) ∧ word.toInt = number
  overflow : ¬InRange number → result = .error (.overflow operation)

theorem delivers_exact (operation : String) (number : Int) :
    Delivers operation number (exact operation (inRange? number)) where
  exact h := by
    obtain ⟨word, hword⟩ := Option.isSome_iff_exists.mp (isSome_inRange?_iff.mpr h)
    exact ⟨word, by rw [hword, Arithmetic.exact], inRange?_eq_some.mp hword⟩
  overflow h := by
    rw [Option.not_isSome_iff_eq_none.mp fun hsome => h (isSome_inRange?_iff.mp hsome),
      Arithmetic.exact]

variable [RegexEngine]

/-- What the operations on integers give. Division has steps on the way, none of which traps. -/
structure IntegerArithmetic (names : ClosureNames) (left right : Int64) : Prop where
  add : Delivers "+" (left.toInt + right.toInt) (send names "+" (.int left) [.int right])
  subtract : Delivers "-" (left.toInt - right.toInt) (send names "-" (.int left) [.int right])
  multiply : Delivers "*" (left.toInt * right.toInt) (send names "*" (.int left) [.int right])
  divide_zero : send names "/" (.int left) [.int right] = .error .divideByZero ↔ right = 0
  divide_overflow : send names "/" (.int left) [.int right] = .error (.overflow "/") ↔
    left = Int64.minValue ∧ right = -1
  divide : right ≠ 0 → ¬(left = Int64.minValue ∧ right = -1) →
    ∃ quotient : Int64, send names "/" (.int left) [.int right] = .ok (.int quotient) ∧
      quotient.toInt = ⌊(left.toInt : ℚ) / right.toInt⌋
  divide_steps :
    quotientSteps "/" left right = some (send names "/" (.int left) [.int right])
  modulo_zero : send names "%" (.int left) [.int right] = .error .divideByZero ↔ right = 0
  modulo : right ≠ 0 →
    ∃ remainder : Int64, send names "%" (.int left) [.int right] = .ok (.int remainder) ∧
      left.toInt = right.toInt * ⌊(left.toInt : ℚ) / right.toInt⌋ + remainder.toInt ∧
      (remainder.toInt = 0 ∨ remainder.toInt.sign = right.toInt.sign) ∧
      |remainder.toInt| < |right.toInt|
  modulo_steps : remainderSteps left right = some (send names "%" (.int left) [.int right])

theorem quotientSteps_eq_send (names : ClosureNames) (left right : Int64) :
    quotientSteps "/" left right = some (send names "/" (.int left) [.int right]) :=
  (Option.some_get _).symm

theorem remainderSteps_eq_send (names : ClosureNames) (left right : Int64) :
    remainderSteps left right = some (send names "%" (.int left) [.int right]) :=
  (Option.some_get _).symm

theorem send_divide_cases (names : ClosureNames) (left right : Int64) :
    (right = 0 ∧ send names "/" (.int left) [.int right] = .error .divideByZero) ∨
    ((left = Int64.minValue ∧ right = -1) ∧
      send names "/" (.int left) [.int right] = .error (.overflow "/")) ∨
    (right ≠ 0 ∧ ¬(left = Int64.minValue ∧ right = -1) ∧
      ∃ quotient : Int64, send names "/" (.int left) [.int right] = .ok (.int quotient) ∧
        quotient.toInt = ⌊(left.toInt : ℚ) / right.toInt⌋) := by
  have hsteps := quotientSteps_eq_send names left right
  by_cases hzero : right = 0
  · subst hzero
    exact .inl ⟨rfl, rfl⟩
  · by_cases hlost : left = Int64.minValue ∧ right = -1
    · obtain ⟨rfl, rfl⟩ := hlost
      exact .inr (.inl ⟨⟨rfl, rfl⟩, rfl⟩)
    · have hquotient : noQuotient left right = false := by
        rw [Bool.eq_false_iff, ne_eq, noQuotient_eq_true_iff]
        exact not_or_intro hzero hlost
      obtain ⟨quotient, hdivided, remainder, hfloors⟩ := quotientSteps_floors "/" hquotient
      exact .inr (.inr ⟨hzero, hlost, quotient, Option.some.inj (hsteps.symm.trans hdivided),
        hfloors.floor_eq.symm⟩)

theorem send_modulo_cases (names : ClosureNames) (left right : Int64) :
    (right = 0 ∧ send names "%" (.int left) [.int right] = .error .divideByZero) ∨
    (right ≠ 0 ∧
      ∃ remainder : Int64, send names "%" (.int left) [.int right] = .ok (.int remainder) ∧
        left.toInt = right.toInt * ⌊(left.toInt : ℚ) / right.toInt⌋ + remainder.toInt ∧
        (remainder.toInt = 0 ∨ remainder.toInt.sign = right.toInt.sign) ∧
        |remainder.toInt| < |right.toInt|) := by
  have hsteps := remainderSteps_eq_send names left right
  by_cases hzero : right = 0
  · subst hzero
    exact .inl ⟨rfl, rfl⟩
  · obtain ⟨remainder, hdivided, quotient, hfloors⟩ := remainderSteps_floors hzero
    refine .inr ⟨hzero, remainder, Option.some.inj (hsteps.symm.trans hdivided), ?_, ?_,
      hfloors.abs_lt⟩
    · rw [hfloors.floor_eq]
      exact hfloors.eq
    · exact or_iff_not_imp_left.mpr hfloors.sign_eq

theorem integerArithmetic_exact (names : ClosureNames) (left right : Int64) :
    IntegerArithmetic names left right where
  add := delivers_exact _ _
  subtract := delivers_exact _ _
  multiply := delivers_exact _ _
  divide_zero := by
    rcases send_divide_cases names left right with
      ⟨hzero, hresult⟩ | ⟨⟨_, rfl⟩, hresult⟩ | ⟨hzero, _, quotient, hresult, _⟩
    · exact iff_of_true hresult hzero
    · exact iff_of_false (hresult ▸ nofun) (by decide)
    · exact iff_of_false (hresult ▸ nofun) hzero
  divide_overflow := by
    rcases send_divide_cases names left right with
      ⟨rfl, hresult⟩ | ⟨hlost, hresult⟩ | ⟨_, hlost, quotient, hresult, _⟩
    · exact iff_of_false (hresult ▸ nofun) (fun h => absurd h.2 (by decide))
    · exact iff_of_true hresult hlost
    · exact iff_of_false (hresult ▸ nofun) hlost
  divide hzero hlost := by
    rcases send_divide_cases names left right with ⟨h, _⟩ | ⟨h, _⟩ | ⟨_, _, hquotient⟩
    · exact absurd h hzero
    · exact absurd h hlost
    · exact hquotient
  divide_steps := quotientSteps_eq_send names left right
  modulo_zero := by
    rcases send_modulo_cases names left right with
      ⟨hzero, hresult⟩ | ⟨hzero, remainder, hresult, _⟩
    · exact iff_of_true hresult hzero
    · exact iff_of_false (hresult ▸ nofun) hzero
  modulo hzero := by
    rcases send_modulo_cases names left right with ⟨h, _⟩ | ⟨_, hremainder⟩
    · exact absurd h hzero
    · exact hremainder
  modulo_steps := remainderSteps_eq_send names left right

end Arithmetic

end Lisplet
