import Lisplet.Proofs.Number.Grammar
import Lisplet.Proofs.Operation.Integers
import Lisplet.Proofs.Reader.PrintedText
import Lisplet.Regex.PatternEngine

namespace Lisplet

open NumberText
open Arithmetic (InRange isSome_inRange?_iff)

namespace Reader

/-! A token that starts as a number is taken as a whole, whether it is one or not. -/

variable {token rest : List Char}

def numberOutcome (token : List Char) : Except Error Value :=
  match numberOfToken? token with
  | some value => .ok value
  | none => .error (.badNumber (String.ofList token))

variable [RegexEngine]

theorem require_number (hstart : startsNumber token = true)
    (htoken : ∀ c ∈ token, isTokenChar c = true) (hrest : Ends rest) :
    require (token ++ rest) = ⟨numberOutcome token, rest, []⟩ := by
  cases token with
  | nil => cases hstart
  | cons first body =>
      have hvisible := takeVisible_of_cons
        (dropLayout_visible (isVisible_of_startsNumber hstart htoken) (body ++ rest)) []
      have hbody : ∀ c ∈ body, isTokenChar c = true := fun c hc => htoken c (by simp [hc])
      have hdatum : datum (enough (first :: body ++ rest)) .datum ⟨first :: body ++ rest, []⟩ =
          number first ⟨body ++ rest, []⟩ := by
        rw [List.cons_append, enough, datum, bind_ok hvisible]
        exact begins_eq_number hstart htoken rest []
      have hnumber : number first ⟨body ++ rest, []⟩ =
          match numberOutcome (first :: body) with
          | .ok value => .ok value ⟨rest, []⟩
          | .error error => .error error ⟨rest, []⟩ := by
        rw [number, bind_ok (takeToken_eq_ok hbody hrest []), numberOutcome]
        cases numberOfToken? (first :: body) <;> rfl
      rw [require]
      cases houtcome : numberOutcome (first :: body) with
      | ok value =>
          rw [houtcome] at hnumber
          exact Scan.run_of_ok (hdatum.trans hnumber)
      | error error =>
          rw [houtcome] at hnumber
          exact Scan.run_of_error (hdatum.trans hnumber)

theorem read_number (hstart : startsNumber token = true)
    (htoken : ∀ c ∈ token, isTokenChar c = true) (hrest : Ends rest) :
    read (token ++ rest) = ⟨(numberOutcome token).map some, rest, []⟩ := by
  have hvisible : dropLayout false (token ++ rest) ≠ [] := by
    cases token with
    | nil => cases hstart
    | cons first body =>
        rw [List.cons_append, dropLayout_visible (isVisible_of_startsNumber hstart htoken)]
        exact List.cons_ne_nil _ _
  rw [read_of_visible hvisible, require_number hstart htoken hrest]

omit [RegexEngine] in
theorem numberOutcome_map_eq_iff {value : Value} :
    (numberOutcome token).map some = .ok (some value) ↔ numberOfToken? token = some value := by
  cases hvalue : numberOfToken? token <;> simp [numberOutcome, hvalue, Except.map]

end Reader

/-! The conversion of a text to an integer understands the same tokens. -/

namespace Conversion

theorem ranges_whiteSpace : CharProperty.whiteSpace.ranges =
    [⟨9, 13⟩, ⟨32, 32⟩, ⟨133, 133⟩, ⟨160, 160⟩, ⟨5760, 5760⟩, ⟨8192, 8202⟩, ⟨8232, 8233⟩,
      ⟨8239, 8239⟩, ⟨8287, 8287⟩, ⟨12288, 12288⟩] := by
  have hwritten : (CodeText.words
      "9-d 20 85 a0 1680 2000-200a 2028-2029 202f 205f 3000").map CodeRange.ofWord =
      [⟨9, 13⟩, ⟨32, 32⟩, ⟨133, 133⟩, ⟨160, 160⟩, ⟨5760, 5760⟩, ⟨8192, 8202⟩, ⟨8232, 8233⟩,
        ⟨8239, 8239⟩, ⟨8287, 8287⟩, ⟨12288, 12288⟩] := by decide +kernel
  rw [CharProperty.whiteSpace, CharSet.ofText, hwritten, CharSet.ofRanges, CodeRange.arrange,
    List.mergeSort_of_pairwise (by decide)]
  decide

theorem isWhiteSpace_of_graphic {c : Char} (h : 32 < c.toNat ∧ c.toNat < 127) :
    CharProperty.isWhiteSpace c = false := by
  simp only [CharProperty.isWhiteSpace, CharSet.contains, ranges_whiteSpace, List.any_cons,
    List.any_nil, Bool.or_eq_false_iff, Bool.and_eq_false_iff, decide_eq_false_iff_not, and_true]
  omega

theorem trim_eq_self {text : List Char}
    (h : ∀ c ∈ text, CharProperty.isWhiteSpace c = false) : trim text = text := by
  have hdrop : ∀ part : List Char, (∀ c ∈ part, c ∈ text) →
      part.dropWhile CharProperty.isWhiteSpace = part := by
    intro part hpart
    cases part with
    | nil => rfl
    | cons c rest =>
        rw [List.dropWhile_cons_of_neg (by simp [h c (hpart c (List.mem_cons_self ..))])]
  rw [trim, hdrop text fun _ hc => hc, hdrop text.reverse fun _ hc => List.mem_reverse.mp hc,
    List.reverse_reverse]

theorem toInteger_of_isInteger (operation : String) {token : List Char} {number : Int64}
    (h : IsInteger token number.toInt) :
    toInteger operation (.str (String.ofList token)) = .ok (.int number) := by
  have htrim : trim token = token := by
    refine trim_eq_self fun c hc => ?_
    refine isWhiteSpace_of_graphic ?_
    rcases h.digit_or_sign hc with hdigit | rfl | rfl
    · have hcode := Char.isDigit_iff_toNat.mp (isDigit_iff.mp hdigit)
      have hzero : '0'.toNat = 48 := rfl
      have hnine : '9'.toNat = 57 := rfl
      omega
    · decide
    · decide
  rw [toInteger, String.toList_ofList, htrim, h.toInt?_eq_some]

end Conversion

namespace Reader

section

variable [RegexEngine]

/-- What a token that starts as a number comes to, whatever text stands behind it. -/
structure ReadsNumber (token rest : List Char) : Prop where
  consumed : (read (token ++ rest)).rest = rest
  integer (number : Int) :
    (∃ word : Int64, (read (token ++ rest)).outcome = .ok (some (.int word)) ∧
      word.toInt = number) ↔ IsInteger token number ∧ InRange number
  float :
    (∃ number, (read (token ++ rest)).outcome = .ok (some (.float number))) ↔ IsFloat token
  bad : (∀ number, IsInteger token number → ¬InRange number) →
    ¬IsFloat token → (read (token ++ rest)).outcome = .error (.badNumber (String.ofList token))
  converted (names : ClosureNames) (word : Int64) :
    (read (token ++ rest)).outcome = .ok (some (.int word)) →
      send names "to_i" (.str (String.ofList token)) [] = .ok (.int word)

theorem numberToken_read :
    (∀ token rest : List Char, startsNumber token = true →
      (∀ c ∈ token, isTokenChar c = true) → Ends rest → ReadsNumber token rest) ∧
    ∀ (names : ClosureNames) (word : Int64), ∃ text,
      send names "to_s" (.int word) [] = .ok (.str text) ∧
        send names "to_i" (.str text) [] = .ok (.int word) := by
  refine ⟨fun token rest hstart htoken hrest => ?_, fun names word => ?_⟩
  · have hread := read_number hstart htoken hrest
    have hinteger : ∀ word : Int64, (read (token ++ rest)).outcome = .ok (some (.int word)) ↔
        IsInteger token word.toInt := by
      intro word
      rw [hread, numberOutcome_map_eq_iff, numberOfToken?_eq_int_iff]
    have hfloat : (∃ number, (read (token ++ rest)).outcome = .ok (some (.float number))) ↔
        IsFloat token := by
      simp only [hread, numberOutcome_map_eq_iff]
      exact exists_numberOfToken?_eq_float_iff
    refine ⟨by rw [hread], fun number => ?_, hfloat, fun hrange hfraction => ?_,
      fun names word hword => ?_⟩
    · constructor
      · rintro ⟨word, hword, rfl⟩
        exact ⟨(hinteger word).mp hword, word.le_toInt, word.toInt_lt⟩
      · rintro ⟨hnumber, hrange⟩
        obtain ⟨word, hword⟩ := Option.isSome_iff_exists.mp (isSome_inRange?_iff.mpr hrange)
        rw [← inRange?_eq_some.mp hword] at hnumber
        exact ⟨word, (hinteger word).mpr hnumber, inRange?_eq_some.mp hword⟩
    · cases houtcome : numberOfToken? token with
      | none => simp [hread, numberOutcome, houtcome, Except.map]
      | some value =>
          obtain ⟨word, rfl⟩ | ⟨number, rfl⟩ := numberOfToken?_cases houtcome
          · exact absurd ⟨word.le_toInt, word.toInt_lt⟩
              (hrange _ (numberOfToken?_eq_int_iff.mp houtcome))
          · exact absurd (exists_numberOfToken?_eq_float_iff.mp ⟨number, houtcome⟩) hfraction
    · exact Conversion.toInteger_of_isInteger "to_i" ((hinteger word).mp hword)
  · refine ⟨ofInt word, rfl, ?_⟩
    have hword := Conversion.toInteger_of_isInteger "to_i"
      (numberOfToken?_eq_int_iff.mp (numberOfToken?_ofInt word))
    rwa [String.ofList_toList] at hword

end

open scoped Pattern

theorem numberToken_read_least :
    ReadsNumber "-9223372036854775808".toList [')'] ∧
      IsInteger "-9223372036854775808".toList Int64.minValue.toInt ∧
      (read ("-9223372036854775808".toList ++ [')'])).outcome =
        .ok (some (.int Int64.minValue)) := by
  have hreads : ReadsNumber "-9223372036854775808".toList [')'] :=
    numberToken_read.1 _ [')'] (by decide) (List.all_eq_true.mp (by decide)) rfl
  have hinteger : IsInteger "-9223372036854775808".toList Int64.minValue.toInt :=
    numberOfToken?_eq_int_iff.mp (numberOfToken?_ofInt Int64.minValue)
  obtain ⟨word, hword, hvalue⟩ := (hreads.integer _).mpr ⟨hinteger, by decide, by decide⟩
  rw [Int64.toInt_inj.mp hvalue] at hword
  exact ⟨hreads, hinteger, hword⟩

end Reader

end Lisplet
