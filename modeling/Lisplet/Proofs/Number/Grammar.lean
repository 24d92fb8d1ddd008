import Lisplet.Proofs.Number.Integer
import Mathlib.Data.List.TakeWhile

namespace Lisplet.NumberText

/-! The grammar of numbers, and which tokens it gives a number. -/

inductive Sign where
  | none | plus | minus

namespace Sign

def text : Sign → List Char
  | none => []
  | plus => ['+']
  | minus => ['-']

def isMinus : Sign → Bool
  | minus => true
  | _ => false

def apply (sign : Sign) (size : Nat) : Int :=
  if sign.isMinus then -(size : Int) else size

end Sign

structure IsDigits (text : List Char) : Prop where
  nonempty : text ≠ []
  digit : ∀ c ∈ text, isDigit c = true

inductive IsWhole : List Char → Prop
  | zero : IsWhole ['0']
  | positive {first : Char} {digits : List Char} (nonzero : first ≠ '0')
      (isDigits : IsDigits (first :: digits)) : IsWhole (first :: digits)

inductive IsExponent : List Char → Prop
  | intro {mark : Char} {digits : List Char} (isMark : mark = 'e' ∨ mark = 'E') (sign : Sign)
      (isDigits : IsDigits digits) : IsExponent (mark :: (sign.text ++ digits))

/-- What follows the digits in front makes the number a float. -/
inductive IsFraction : List Char → Prop
  | point {digits : List Char} (isDigits : IsDigits digits) : IsFraction ('.' :: digits)
  | both {digits exponent : List Char} (isDigits : IsDigits digits)
      (isExponent : IsExponent exponent) : IsFraction ('.' :: (digits ++ exponent))
  | exponent {exponent : List Char} (isExponent : IsExponent exponent) : IsFraction exponent

inductive IsInteger : List Char → Int → Prop
  | intro (sign : Sign) {whole : List Char} (isWhole : IsWhole whole) :
      IsInteger (sign.text ++ whole) (sign.apply (Nat.ofDigitChars 10 whole 0))

inductive IsFloat : List Char → Prop
  | intro (sign : Sign) {whole fraction : List Char} (isWhole : IsWhole whole)
      (isFraction : IsFraction fraction) : IsFloat (sign.text ++ (whole ++ fraction))

theorem IsWhole.isDigits {whole : List Char} (h : IsWhole whole) : IsDigits whole := by
  cases h with
  | zero => exact ⟨nofun, List.all_eq_true.mp (by decide)⟩
  | positive _ isDigits => exact isDigits

theorem IsInteger.digit_or_sign {token : List Char} {number : Int} (h : IsInteger token number)
    {c : Char} (hc : c ∈ token) : isDigit c = true ∨ c = '+' ∨ c = '-' := by
  obtain ⟨sign, isWhole⟩ := h
  rcases List.mem_append.mp hc with hsign | hdigit
  · cases sign with
    | none => cases hsign
    | plus => exact .inr (.inl (List.mem_singleton.mp hsign))
    | minus => exact .inr (.inr (List.mem_singleton.mp hsign))
  · exact .inl (isWhole.isDigits.digit c hdigit)

theorem exists_sign (text : List Char) :
    ∃ sign : Sign, text = sign.text ++ (splitSign text).2 ∧
      (splitSign text).1 = sign.isMinus := by
  unfold splitSign
  split
  · exact ⟨.minus, rfl, rfl⟩
  · exact ⟨.plus, rfl, rfl⟩
  · exact ⟨.none, rfl, rfl⟩

theorem splitSign_append (sign : Sign) {digits : List Char} (h : IsDigits digits)
    (rest : List Char) :
    splitSign (sign.text ++ (digits ++ rest)) = (sign.isMinus, digits ++ rest) := by
  cases sign with
  | plus => rfl
  | minus => rfl
  | none =>
      obtain ⟨first, digits, rfl⟩ := List.exists_cons_of_ne_nil h.nonempty
      have hfirst := h.digit first (List.mem_cons_self ..)
      simp only [Sign.text, List.nil_append, List.cons_append]
      unfold splitSign
      split
      · rename_i heq
        cases heq
        exact absurd hfirst (by decide)
      · rename_i heq
        cases heq
        exact absurd hfirst (by decide)
      · rfl

theorem takeWhile_digits {digits rest : List Char} (hdigits : ∀ c ∈ digits, isDigit c = true)
    (hrest : rest.head?.any isDigit = false) : (digits ++ rest).takeWhile isDigit = digits := by
  rw [List.takeWhile_append_of_pos hdigits]
  cases rest with
  | nil => simp
  | cons c rest => simp [show isDigit c = false from hrest]

theorem dropWhile_digits {digits rest : List Char} (hdigits : ∀ c ∈ digits, isDigit c = true)
    (hrest : rest.head?.any isDigit = false) : (digits ++ rest).dropWhile isDigit = rest := by
  rw [List.dropWhile_append_of_pos hdigits]
  cases rest with
  | nil => rfl
  | cons c rest => simp [show isDigit c = false from hrest]

theorem isDigit_of_mem_takeWhile {text : List Char} {c : Char}
    (h : c ∈ text.takeWhile isDigit) : isDigit c = true :=
  List.all_eq_true.mp List.all_takeWhile c h

theorem IsExponent.head_not_digit {exponent : List Char} (h : IsExponent exponent) :
    exponent.head?.any isDigit = false := by
  obtain ⟨rfl | rfl, _, _⟩ := h <;> rfl

theorem IsFraction.head_not_digit {fraction : List Char} (h : IsFraction fraction) :
    fraction.head?.any isDigit = false := by
  cases h with
  | point => rfl
  | both => rfl
  | exponent isExponent => exact isExponent.head_not_digit

theorem IsExponent.ne_nil {exponent : List Char} (h : IsExponent exponent) : exponent ≠ [] := by
  rintro rfl
  cases h

theorem IsFraction.ne_nil {fraction : List Char} (h : IsFraction fraction) : fraction ≠ [] := by
  rintro rfl
  cases h with
  | exponent isExponent => exact isExponent.ne_nil rfl

theorem isSome_toExponent?_iff {text : List Char} (h : text ≠ []) :
    (toExponent? text).isSome = true ↔ IsExponent text := by
  constructor
  · intro hsome
    obtain ⟨mark, text, rfl⟩ := List.exists_cons_of_ne_nil h
    obtain ⟨sign, htext, -⟩ := exists_sign text
    simp only [toExponent?] at hsome
    split at hsome
    · rename_i hparts
      rw [htext]
      exact .intro hparts.1 sign ⟨hparts.2.1, List.all_eq_true.mp hparts.2.2⟩
    · cases hsome
  · rintro ⟨hmark, sign, hdigits⟩
    rename_i mark digits
    have hsplit := splitSign_append sign hdigits []
    rw [List.append_nil] at hsplit
    have hparts : (mark = 'e' ∨ mark = 'E') ∧ digits ≠ [] ∧ digits.all isDigit = true :=
      ⟨hmark, hdigits.nonempty, List.all_eq_true.mpr hdigits.digit⟩
    simp only [toExponent?, hsplit, if_pos hparts, Option.isSome_some]

theorem isSome_toExponent?_fraction {fraction : List Char} (h : IsFraction fraction) :
    (toExponent? (splitFraction fraction).2).isSome = true := by
  cases h with
  | point isDigits =>
      rw [splitFraction, List.dropWhile_eq_nil_iff.mpr isDigits.digit]
      rfl
  | both isDigits isExponent =>
      rw [splitFraction, dropWhile_digits isDigits.digit isExponent.head_not_digit]
      exact (isSome_toExponent?_iff isExponent.ne_nil).mpr isExponent
  | exponent isExponent =>
      have hexponent := (isSome_toExponent?_iff isExponent.ne_nil).mpr isExponent
      obtain ⟨rfl | rfl, _, _⟩ := isExponent <;> exact hexponent

theorem isSome_toFloat? {token : List Char} (h : IsFloat token) :
    (toFloat? token).isSome = true := by
  obtain ⟨sign, isWhole, isFraction⟩ := h
  have hnonempty := isWhole.isDigits.nonempty
  have hexponent := isSome_toExponent?_fraction isFraction
  simp only [toFloat?, splitSign_append sign isWhole.isDigits]
  split
  · rfl
  · split
    · rfl
    · simp only [toDecimal?, takeWhile_digits isWhole.isDigits.digit isFraction.head_not_digit,
        dropWhile_digits isWhole.isDigits.digit isFraction.head_not_digit, hnonempty, false_and,
        if_false, Option.isSome_map]
      exact hexponent

theorem toInt?_eq_some_iff (sign : Sign) {digits : List Char} (h : IsDigits digits)
    {number : Int64} :
    toInt? (sign.text ++ digits) = some number ↔
      number.toInt = sign.apply (Nat.ofDigitChars 10 digits 0) := by
  have hsplit := splitSign_append sign h []
  rw [List.append_nil] at hsplit
  have hparts : digits ≠ [] ∧ digits.all isDigit = true :=
    ⟨h.nonempty, List.all_eq_true.mpr h.digit⟩
  simp only [toInt?, hsplit, if_pos hparts, inRange?_eq_some]
  rfl

theorem IsInteger.toInt?_eq_some {token : List Char} {number : Int64}
    (h : IsInteger token number.toInt) : toInt? token = some number := by
  generalize hvalue : number.toInt = value at h
  obtain ⟨sign, isWhole⟩ := h
  exact (toInt?_eq_some_iff sign isWhole.isDigits).mpr hvalue

end Lisplet.NumberText

namespace Lisplet.Reader

open NumberText

theorem isCanonical_iff {text : List Char} : isCanonical text = true ↔ IsWhole text := by
  constructor
  · intro h
    unfold isCanonical at h
    split at h
    · exact .zero
    · cases h
    · simp only [Bool.and_eq_true, decide_eq_true_eq] at h
      exact .positive h.1 ⟨nofun, List.all_eq_true.mp h.2⟩
  · intro h
    cases h with
    | zero => rfl
    | positive nonzero isDigits =>
        have hall := List.all_eq_true.mpr isDigits.digit
        unfold isCanonical
        split
        · rfl
        · rename_i heq
          cases heq
        · rename_i heq
          cases heq
          simp [nonzero, hall]

theorem isFractional_iff {text : List Char} (h : text ≠ []) :
    isFractional text = true ↔ IsFraction text := by
  constructor
  · intro hfractional
    unfold isFractional at hfractional
    split at hfractional
    · rename_i rest
      simp only [Bool.and_eq_true, decide_eq_true_eq] at hfractional
      have hdigits : IsDigits (rest.takeWhile isDigit) :=
        ⟨hfractional.1, fun _ => isDigit_of_mem_takeWhile⟩
      rw [← List.takeWhile_append_dropWhile (p := isDigit) (l := rest)]
      by_cases hrest : rest.dropWhile isDigit = []
      · rw [hrest, List.append_nil]
        exact .point hdigits
      · exact .both hdigits ((isSome_toExponent?_iff hrest).mp hfractional.2)
    · exact .exponent ((isSome_toExponent?_iff h).mp hfractional)
  · intro hfraction
    have hexponent := isSome_toExponent?_fraction hfraction
    cases hfraction with
    | point isDigits =>
        have hdigits := List.takeWhile_eq_self_iff.mpr isDigits.digit
        simp only [splitFraction] at hexponent
        simp [isFractional, hdigits, isDigits.nonempty, hexponent]
    | both isDigits isExponent =>
        have hdigits := takeWhile_digits isDigits.digit isExponent.head_not_digit
        simp only [splitFraction] at hexponent
        simp [isFractional, hdigits, isDigits.nonempty, hexponent]
    | exponent isExponent =>
        obtain ⟨rfl | rfl, _, _⟩ := isExponent <;> exact hexponent

theorem numberOfToken?_parts (sign : Sign) {whole : List Char} (h : IsWhole whole)
    (rest : List Char) (hrest : rest.head?.any isDigit = false) :
    numberOfToken? (sign.text ++ (whole ++ rest)) =
      if rest = [] then (toInt? (sign.text ++ (whole ++ rest))).map .int
      else if isFractional rest then (toFloat? (sign.text ++ (whole ++ rest))).map .float
      else none := by
  simp only [numberOfToken?, splitSign_append sign h.isDigits,
    takeWhile_digits h.isDigits.digit hrest, dropWhile_digits h.isDigits.digit hrest,
    isCanonical_iff.mpr h, Bool.not_true, Bool.false_eq_true, if_false]

theorem exists_parts {token : List Char} {value : Value} (h : numberOfToken? token = some value) :
    ∃ (sign : Sign) (whole rest : List Char), token = sign.text ++ (whole ++ rest) ∧
      IsWhole whole ∧ rest.head?.any isDigit = false := by
  obtain ⟨sign, htoken, -⟩ := exists_sign token
  refine ⟨sign, (splitSign token).2.takeWhile isDigit, (splitSign token).2.dropWhile isDigit,
    ?_, ?_, ?_⟩
  · rw [List.takeWhile_append_dropWhile]
    exact htoken
  · cases hwhole : isCanonical ((splitSign token).2.takeWhile isDigit) with
    | true => exact isCanonical_iff.mp hwhole
    | false => simp [numberOfToken?, hwhole] at h
  · cases hdrop : (splitSign token).2.dropWhile isDigit with
    | nil => rfl
    | cons c rest =>
        have hhead := List.head?_dropWhile_not isDigit (splitSign token).2
        rw [hdrop] at hhead
        simpa using hhead

theorem numberOfToken?_eq_int_iff {token : List Char} {number : Int64} :
    numberOfToken? token = some (.int number) ↔ IsInteger token number.toInt := by
  constructor
  · intro h
    obtain ⟨sign, whole, rest, rfl, hwhole, hrest⟩ := exists_parts h
    rw [numberOfToken?_parts sign hwhole rest hrest] at h
    split at h
    · rename_i hnil
      rw [hnil, List.append_nil] at h ⊢
      obtain ⟨word, hword, heq⟩ := Option.map_eq_some_iff.mp h
      cases heq
      rw [(toInt?_eq_some_iff sign hwhole.isDigits).mp hword]
      exact .intro sign hwhole
    · split at h
      · obtain ⟨value, _, heq⟩ := Option.map_eq_some_iff.mp h
        cases heq
      · cases h
  · intro h
    have hnumber := h.toInt?_eq_some
    generalize number.toInt = value at h
    obtain ⟨sign, hwhole⟩ := h
    have hparts := numberOfToken?_parts sign hwhole [] rfl
    rw [if_pos rfl, List.append_nil] at hparts
    rw [hparts, hnumber]
    rfl

theorem exists_numberOfToken?_eq_float_iff {token : List Char} :
    (∃ number, numberOfToken? token = some (.float number)) ↔ IsFloat token := by
  constructor
  · rintro ⟨number, h⟩
    obtain ⟨sign, whole, rest, rfl, hwhole, hrest⟩ := exists_parts h
    rw [numberOfToken?_parts sign hwhole rest hrest] at h
    split at h
    · obtain ⟨value, _, heq⟩ := Option.map_eq_some_iff.mp h
      cases heq
    · rename_i hsome
      split at h
      · rename_i hfraction
        exact .intro sign hwhole ((isFractional_iff hsome).mp hfraction)
      · cases h
  · intro h
    obtain ⟨number, hnumber⟩ := Option.isSome_iff_exists.mp (isSome_toFloat? h)
    obtain ⟨sign, hwhole, hfraction⟩ := h
    have hsome := hfraction.ne_nil
    exact ⟨number, by
      rw [numberOfToken?_parts sign hwhole _ hfraction.head_not_digit, if_neg hsome,
        if_pos ((isFractional_iff hsome).mpr hfraction), hnumber, Option.map_some]⟩

theorem numberOfToken?_cases {token : List Char} {value : Value}
    (h : numberOfToken? token = some value) :
    (∃ number, value = .int number) ∨ ∃ number, value = .float number := by
  obtain ⟨sign, whole, rest, rfl, hwhole, hrest⟩ := exists_parts h
  rw [numberOfToken?_parts sign hwhole rest hrest] at h
  split at h
  · obtain ⟨number, _, rfl⟩ := Option.map_eq_some_iff.mp h
    exact .inl ⟨number, rfl⟩
  · split at h
    · obtain ⟨number, _, rfl⟩ := Option.map_eq_some_iff.mp h
      exact .inr ⟨number, rfl⟩
    · cases h

end Lisplet.Reader
