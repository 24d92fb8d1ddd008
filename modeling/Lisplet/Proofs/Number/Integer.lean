import Lisplet.Reader.Token

namespace Lisplet

/-! The text of an integer is a number token, and it stands for that integer. -/

namespace NumberText

theorem isDigit_iff {c : Char} : isDigit c = true ↔ c.isDigit = true := by
  simp only [isDigit, Char.isDigit, Bool.and_eq_true, decide_eq_true_eq]
  exact Iff.rfl

theorem isDigit_of_mem_toDigits {n : Nat} {c : Char} (h : c ∈ Nat.toDigits 10 n) :
    isDigit c = true :=
  isDigit_iff.mpr (Nat.isDigit_of_mem_toDigits (by decide) (by decide) h)

theorem all_isDigit_toDigits (n : Nat) : (Nat.toDigits 10 n).all isDigit = true :=
  List.all_eq_true.mpr fun _ hc => isDigit_of_mem_toDigits hc

theorem head?_toDigits_ne_zero {n : Nat} (h : 0 < n) : (Nat.toDigits 10 n).head? ≠ some '0' := by
  induction n using Nat.strongRecOn with
  | ind n ih =>
      by_cases hlow : n < 10
      · rw [Nat.toDigits_of_lt_base hlow]
        have hdigit : ∀ d, d < 10 → 0 < d → d.digitChar ≠ '0' := by decide
        simpa using hdigit n hlow h
      · have hfront := ih (n / 10) (by omega) (by omega)
        rw [Nat.toDigits_of_base_le (by decide) (by omega), List.head?_append]
        cases hdigits : (Nat.toDigits 10 (n / 10)).head? with
        | none => exact absurd (List.head?_eq_none_iff.mp hdigits) Nat.toDigits_ne_nil
        | some c => simpa [hdigits] using hfront

theorem splitSign_toDigits (n : Nat) :
    splitSign (Nat.toDigits 10 n) = (false, Nat.toDigits 10 n) := by
  cases hdigits : Nat.toDigits 10 n with
  | nil => rfl
  | cons c rest =>
      have hc : isDigit c = true := isDigit_of_mem_toDigits (n := n) (by simp [hdigits])
      unfold splitSign
      split
      next heq => cases heq; exact absurd hc (by decide)
      next heq => cases heq; exact absurd hc (by decide)
      next => rfl

theorem toList_ofInt (value : Int64) :
    (ofInt value).toList =
      if value.toInt < 0 then '-' :: Nat.toDigits 10 value.toInt.natAbs
      else Nat.toDigits 10 value.toInt.natAbs := by
  unfold ofInt
  split <;> simp

theorem splitSign_ofInt (value : Int64) :
    splitSign (ofInt value).toList =
      (decide (value.toInt < 0), Nat.toDigits 10 value.toInt.natAbs) := by
  rw [toList_ofInt]
  split
  next h => simp [splitSign, h]
  next h => simp [splitSign_toDigits, h]

theorem inRange?_toInt (value : Int64) : inRange? value.toInt = some value := by
  rw [inRange?, if_pos ⟨value.minValue_le_toInt, value.toInt_le⟩, Int64.ofInt_toInt]

theorem toInt?_ofInt (value : Int64) : toInt? (ofInt value).toList = some value := by
  have hvalue :
      (if value.toInt < 0 then -(value.toInt.natAbs : Int) else value.toInt.natAbs) =
        value.toInt := by
    split <;> omega
  simp only [toInt?, splitSign_ofInt, all_isDigit_toDigits, ofDigits,
    Nat.ofDigitChars_ten_toDigits, decide_eq_true_eq, hvalue, inRange?_toInt]
  simp

end NumberText

namespace Reader

theorem isCanonical_toDigits (n : Nat) : isCanonical (Nat.toDigits 10 n) = true := by
  rcases Nat.eq_zero_or_pos n with rfl | hpositive
  · simp [isCanonical]
  · have hhead := NumberText.head?_toDigits_ne_zero hpositive
    have hall := NumberText.all_isDigit_toDigits n
    cases hdigits : Nat.toDigits 10 n with
    | nil => exact absurd hdigits Nat.toDigits_ne_nil
    | cons c rest =>
        rw [hdigits] at hhead hall
        have hc : c ≠ '0' := by simpa using hhead
        unfold isCanonical
        split
        next => rfl
        next heq => cases heq
        next heq =>
          cases heq
          simp [hc, hall]

theorem numberOfToken?_ofInt (value : Int64) :
    numberOfToken? (NumberText.ofInt value).toList = some (.int value) := by
  have hdigits : ∀ c ∈ Nat.toDigits 10 value.toInt.natAbs, NumberText.isDigit c = true :=
    fun c hc => NumberText.isDigit_of_mem_toDigits hc
  have hwhole : (Nat.toDigits 10 value.toInt.natAbs).takeWhile NumberText.isDigit =
      Nat.toDigits 10 value.toInt.natAbs := by
    rw [← List.append_nil (Nat.toDigits 10 _), List.takeWhile_append_of_pos hdigits]
    rfl
  have hrest : (Nat.toDigits 10 value.toInt.natAbs).dropWhile NumberText.isDigit = [] := by
    rw [← List.append_nil (Nat.toDigits 10 _), List.dropWhile_append_of_pos hdigits]
    rfl
  simp [numberOfToken?, NumberText.splitSign_ofInt, hwhole, hrest, isCanonical_toDigits,
    NumberText.toInt?_ofInt]

theorem isTokenChar_of_isDigit {c : Char} (h : NumberText.isDigit c = true) :
    isTokenChar c = true := by
  simp only [isTokenChar, isTerminator, isWhitespace]
  have hne : ∀ d : Char, NumberText.isDigit d = false → c ≠ d := by
    rintro d hd rfl
    simp [h] at hd
  simp [hne ' ' (by decide), hne '\t' (by decide), hne '\r' (by decide), hne '\n' (by decide),
    hne '\x0c' (by decide), hne ')' (by decide)]

theorem isTokenChar_of_mem_ofInt {value : Int64} {c : Char}
    (h : c ∈ (NumberText.ofInt value).toList) : isTokenChar c = true := by
  rw [NumberText.toList_ofInt] at h
  split at h
  · rcases List.mem_cons.mp h with rfl | hdigit
    · decide
    · exact isTokenChar_of_isDigit (NumberText.isDigit_of_mem_toDigits hdigit)
  · exact isTokenChar_of_isDigit (NumberText.isDigit_of_mem_toDigits h)

end Reader

end Lisplet
