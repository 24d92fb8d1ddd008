import Lisplet.Proofs.Reader.Name
import Lisplet.Regex.PatternEngine
import Mathlib.Algebra.Group.Int.Defs

namespace Lisplet

/-! What reading returns. At every depth a datum holds only what has a spelling: names that a token
can give, options that a regular expression can have, and no function of any kind. -/

def Value.IsDatum : Value → Prop
  | nil | bool _ | float _ | str _ | emptyList => True
  | int value => -2 ^ 63 ≤ value.toInt ∧ value.toInt < 2 ^ 63
  | .symbol name => Reader.IsSymbolName name.name.toList
  | keyword name => Reader.IsKeywordName name.toList
  | .regex pattern => ∀ option ∈ pattern.options.toList, option ∈ ['i', 'x', 'm']
  | cons first rest => first.IsDatum ∧ rest.IsDatum
  | closure _ _ _ _ _ | primitive _ | special _ => False

def Value.isWritten : Value → Bool
  | cons first rest => first.isWritten && rest.isWritten
  | closure _ _ _ _ _ | primitive _ | special _ => false
  | _ => true

theorem Value.IsDatum.isWritten {value : Value} (h : value.IsDatum) : value.isWritten = true := by
  induction value with
  | cons first rest ihFirst ihRest =>
      rw [Value.isWritten, ihFirst h.1, ihRest h.2]
      rfl
  | closure => cases h
  | primitive => cases h
  | special => cases h
  | _ => rfl

namespace Reader

theorem isTokenChar_of_mem_takeWhile {c : Char} {text : List Char}
    (h : c ∈ text.takeWhile isTokenChar) : isTokenChar c = true :=
  List.all_eq_true.mp List.all_takeWhile c h

theorem head?_takeWhile_ne {p : Char → Bool} {c : Char} {text : List Char}
    (h : text.head? ≠ some c) : (text.takeWhile p).head? ≠ some c := by
  rw [List.head?_takeWhile]
  exact fun hhead => h (Option.eq_some_of_filter_eq_some hhead)

/-- A name that begins with a mark is no literal, no number and not the dot. -/
theorem isSymbolName_of_marked {token : List Char} (hmarked : isMarkedName token = true)
    (htoken : ∀ c ∈ token, isTokenChar c = true) : IsSymbolName token := by
  cases token with
  | nil => cases hmarked
  | cons c rest =>
      have hmark : c = '/' ∨ c = ':' ∨ c = '%' := by
        simp only [isMarkedName, Bool.or_eq_true, beq_iff_eq, Bool.and_eq_true] at hmarked
        rcases hmarked with (hslash | hcolons) | ⟨hpercent, _⟩
        · exact .inl (List.cons.inj hslash).1
        · simp only [List.isPrefixOf, Bool.and_eq_true, beq_iff_eq] at hcolons
          exact .inr (.inl hcolons.1.symm)
        · simp only [List.isPrefixOf, Bool.and_true, beq_iff_eq] at hpercent
          exact .inr (.inr hpercent.symm)
      refine ⟨by simp, htoken, ?_, ?_, ?_, fun _ => hmarked⟩
      · rcases hmark with rfl | rfl | rfl <;> simp
      · rcases hmark with rfl | rfl | rfl <;> simp
      · rcases hmark with rfl | rfl | rfl <;> simp [startsNumber, NumberText.isDigit]

theorem isMarkedName_percent {body : List Char} (h : body.head? ≠ some 'r') :
    isMarkedName ('%' :: body) = true := by
  cases body with
  | nil => rfl
  | cons c body =>
      have hc : 'r' ≠ c := fun heq => h (heq ▸ rfl)
      simp [isMarkedName, List.isPrefixOf, hc]

theorem isMarkedName_percent_letter {body : List Char} (h : body.head? ≠ some '\x7b') :
    isMarkedName ('%' :: 'r' :: body) = true := by
  cases body with
  | nil => rfl
  | cons c body =>
      have hc : '\x7b' ≠ c := fun heq => h (heq ▸ rfl)
      simp [isMarkedName, List.isPrefixOf, hc]

theorem isSymbolName_token {c : Char} {rest : List Char} (hvisible : isVisible c = true)
    (hclose : c ≠ ')') (hmark : isMark c = false)
    (hdot : ¬ (c = '.' ∧ isTerminator rest.head? = true))
    (hnumber : ¬ (NumberText.isDigit c = true ∨
      ((c = '+' ∨ c = '-') ∧ rest.head?.any NumberText.isDigit = true)))
    (hliteral : c :: rest.takeWhile isTokenChar ∉
      [['n', 'i', 'l'], ['t', 'r', 'u', 'e'], ['f', 'a', 'l', 's', 'e']]) :
    IsSymbolName (c :: rest.takeWhile isTokenChar) := by
  refine ⟨by simp, ?_, hliteral, ?_, ?_, ?_⟩
  · intro d hd
    rcases List.mem_cons.mp hd with rfl | hrest
    · simp only [isVisible, Bool.and_eq_true, Bool.not_eq_true'] at hvisible
      simp [isTokenChar, isTerminator, hvisible.1, hclose]
    · exact isTokenChar_of_mem_takeWhile hrest
  · intro hlone
    obtain ⟨rfl, hnil⟩ := List.cons.inj hlone
    refine hdot ⟨rfl, ?_⟩
    cases rest with
    | nil => rfl
    | cons d rest => simpa [isTokenChar, List.takeWhile_cons] using hnil
  · refine Bool.eq_false_iff.mpr fun hstart => hnumber ?_
    simp only [startsNumber, Bool.or_eq_true, Bool.and_eq_true, decide_eq_true_eq] at hstart
    refine hstart.imp_right fun hsigned => ⟨hsigned.1, ?_⟩
    have hdigit := hsigned.2
    rw [List.head?_takeWhile] at hdigit
    cases rest with
    | nil => cases hdigit
    | cons d rest =>
        have hboth : isTokenChar d = true ∧ NumberText.isDigit d = true := by simpa using hdigit
        exact hboth.2
  · intro hhead
    simp [hmark] at hhead

theorem isSymbolName_sugar (sugar : Sugar) : IsSymbolName sugar.symbol.name.toList := by
  cases sugar <;> decide

theorem isDatum_atomOfToken {token : List Char}
    (h : token ∉ [['n', 'i', 'l'], ['t', 'r', 'u', 'e'], ['f', 'a', 'l', 's', 'e']] →
      IsSymbolName token) : (atomOfToken token).IsDatum := by
  by_cases hliteral : token ∈ [['n', 'i', 'l'], ['t', 'r', 'u', 'e'], ['f', 'a', 'l', 's', 'e']]
  · simp only [List.mem_cons, List.not_mem_nil, or_false] at hliteral
    rcases hliteral with rfl | rfl | rfl <;> exact trivial
  · rw [atomOfToken_of_not_literal hliteral, Value.IsDatum, String.toList_ofList]
    exact h hliteral

theorem isDatum_numberOfToken? {token : List Char} {value : Value}
    (h : numberOfToken? token = some value) : value.IsDatum := by
  simp only [numberOfToken?] at h
  split at h
  · cases h
  · split at h
    · obtain ⟨number, _, rfl⟩ := Option.map_eq_some_iff.mp h
      exact ⟨number.le_toInt, number.toInt_lt⟩
    · split at h
      · obtain ⟨number, _, rfl⟩ := Option.map_eq_some_iff.mp h
        trivial
      · cases h

/-! From a place in the text, a scanner returns only such values. -/

def ReturnsAt (cursor : Cursor) (P : α → Prop) (scan : Scan α) : Prop :=
  ∀ value after, scan cursor = .ok value after → P value

namespace ReturnsAt

variable {cursor : Cursor} {P : α → Prop}

theorem pure {value : α} (h : P value) : ReturnsAt cursor P (pure value) := by
  intro result after hrun
  cases hrun
  exact h

theorem throw (error : Error) : ReturnsAt cursor P (throw error) := by
  intro result after hrun
  cases hrun

theorem bind {scan : Scan α} {next : α → Scan β} {Q : β → Prop}
    (hnext : ∀ value after, scan cursor = .ok value after → ReturnsAt after Q (next value)) :
    ReturnsAt cursor Q (scan >>= next) := by
  intro result last hrun
  cases hfirst : scan cursor with
  | error error after => cases (bind_error hfirst).symm.trans hrun
  | ok value after =>
      exact hnext value after hfirst result last ((bind_ok hfirst).symm.trans hrun)

theorem mono {scan : Scan α} {Q : α → Prop} (h : ReturnsAt cursor P scan)
    (himp : ∀ value, P value → Q value) : ReturnsAt cursor Q scan :=
  fun value after hrun => himp value (h value after hrun)

end ReturnsAt

section Literals

variable {cursor : Cursor}

theorem returnsAt_meet {value : Value} (h : value.IsDatum) :
    ReturnsAt cursor Value.IsDatum (meet value) := by
  cases value with
  | symbol symbol => exact .bind fun _ _ _ => .pure h
  | _ => exact .pure h

theorem returnsAt_atom {start : List Char}
    (h : start ++ cursor.rest.takeWhile isTokenChar ∉
        [['n', 'i', 'l'], ['t', 'r', 'u', 'e'], ['f', 'a', 'l', 's', 'e']] →
      IsSymbolName (start ++ cursor.rest.takeWhile isTokenChar)) :
    ReturnsAt cursor Value.IsDatum (atom start) := by
  refine .bind fun token after htoken => ?_
  cases htoken
  exact returnsAt_meet (isDatum_atomOfToken h)

theorem returnsAt_number (first : Char) : ReturnsAt cursor Value.IsDatum (number first) := by
  refine .bind fun token _ _ => ?_
  dsimp only
  split
  · rename_i value hnumber
    exact .pure (isDatum_numberOfToken? hnumber)
  · exact .throw _

theorem returnsAt_string : ReturnsAt cursor Value.IsDatum string := by
  refine .bind fun _ _ _ => ?_
  split
  · exact .bind fun _ _ _ => .pure trivial
  · exact .bind fun _ _ _ => .throw _

theorem returnsAt_marked {start : List Char} (hstart : start.all isTokenChar = true)
    (hmarked : isMarkedName (start ++ cursor.rest.takeWhile isTokenChar) = true) :
    ReturnsAt cursor Value.IsDatum (atom start) := by
  refine returnsAt_atom fun _ => isSymbolName_of_marked hmarked ?_
  intro c hc
  rcases List.mem_append.mp hc with hfirst | hrest
  · exact List.all_eq_true.mp hstart c hfirst
  · exact isTokenChar_of_mem_takeWhile hrest

theorem returnsAt_keyword : ReturnsAt cursor Value.IsDatum keyword := by
  refine .bind fun following after hpeek => ?_
  cases hpeek
  split
  · exact .bind fun _ _ _ => returnsAt_marked rfl rfl
  · rename_i hcolon
    refine .bind fun name after htoken => ?_
    cases htoken
    split
    · exact .bind fun _ _ h => nomatch h
    · rename_i hname
      refine .pure ?_
      rw [Value.IsDatum, String.toList_ofList]
      exact ⟨hname, fun _ => isTokenChar_of_mem_takeWhile, head?_takeWhile_ne hcolon⟩

variable [RegexEngine]

theorem returnsAt_regex (close : Char) : ReturnsAt cursor Value.IsDatum (regex close) := by
  refine .bind fun _ _ _ => ?_
  split
  · exact .bind fun _ _ _ => .throw _
  · refine .bind fun _ _ _ => .bind fun options _ _ => ?_
    split
    · exact .throw _
    · rename_i hoptions
      have hdatum : ∀ source, (Value.regex ⟨source, String.ofList options⟩).IsDatum := by
        intro source option hoption
        rw [String.toList_ofList] at hoption
        have hletter : isRegexOption option = true := by
          simpa using List.find?_eq_none.mp hoptions option hoption
        simpa [isRegexOption, or_assoc] using hletter
      split
      · exact .throw _
      · exact .pure (hdatum _)

theorem returnsAt_slash : ReturnsAt cursor Value.IsDatum slash := by
  refine .bind fun _ _ _ => ?_
  split
  · exact returnsAt_meet (isSymbolName_of_marked rfl (List.all_eq_true.mp rfl))
  · exact returnsAt_regex _

theorem returnsAt_percent : ReturnsAt cursor Value.IsDatum percent := by
  refine .bind fun following after hpeek => ?_
  cases hpeek
  split
  · refine .bind fun _ middle _ => .bind fun opening after hpeek => ?_
    cases hpeek
    split
    · exact .bind fun _ _ _ => returnsAt_regex _
    · rename_i hopening
      exact returnsAt_marked rfl (isMarkedName_percent_letter (head?_takeWhile_ne hopening))
  · rename_i hletter
    exact returnsAt_marked rfl (isMarkedName_percent (head?_takeWhile_ne hletter))

end Literals

section

variable [RegexEngine]

/-- Every literal that is read has the property, and so has every list of values that have it. -/
structure ReadInvariant (P : Value → Prop) : Prop where
  emptyList : P .emptyList
  cons : ∀ {first rest : Value}, P first → P rest → P (.cons first rest)
  mark : ∀ sugar : Sugar, P (.symbol sugar.symbol)
  number : ∀ (first : Char) (cursor : Cursor), ReturnsAt cursor P (Reader.number first)
  string : ∀ cursor : Cursor, ReturnsAt cursor P Reader.string
  keyword : ∀ cursor : Cursor, ReturnsAt cursor P Reader.keyword
  slash : ∀ cursor : Cursor, ReturnsAt cursor P Reader.slash
  percent : ∀ cursor : Cursor, ReturnsAt cursor P Reader.percent
  token : ∀ {c : Char} {cursor : Cursor}, isVisible c = true → c ≠ ')' → isMark c = false →
    ¬ (c = '.' ∧ isTerminator cursor.rest.head? = true) →
    ¬ (NumberText.isDigit c = true ∨
      ((c = '+' ∨ c = '-') ∧ cursor.rest.head?.any NumberText.isDigit = true)) →
    ReturnsAt cursor P (atom [c])

namespace ReadInvariant

variable {P : Value → Prop} (hP : ReadInvariant P)

include hP

theorem ofDotted {items : List Value} {tail : Value} (hitems : ∀ item ∈ items, P item)
    (htail : P tail) : P (.ofDotted items tail) := by
  induction items with
  | nil => exact htail
  | cons first items ih =>
      refine hP.cons (hitems first List.mem_cons_self) (ih ?_)
      intro item hitem
      exact hitems item (List.mem_cons_of_mem _ hitem)

section Nested

variable {datum : Expected → Scan Value} {list : Scan Value}
  (hdatum : ∀ expected cursor, ReturnsAt cursor P (datum expected))

include hdatum

theorem quoted (sugar : Sugar) (cursor : Cursor) :
    ReturnsAt cursor P (Reader.quoted datum sugar) := by
  refine .bind fun operand _ hoperand => .pure ?_
  exact hP.cons (hP.mark sugar) (hP.cons (hdatum _ _ _ _ hoperand) hP.emptyList)

theorem template (cursor : Cursor) : ReturnsAt cursor P (Reader.template datum) := by
  refine .bind fun operand _ hoperand => ?_
  split
  · exact .bind fun _ _ h => nomatch h
  · exact .pure (hP.cons (hP.mark .quasiquote) (hP.cons (hdatum _ _ _ _ hoperand) hP.emptyList))

theorem unquoted (cursor : Cursor) : ReturnsAt cursor P (Reader.unquoted datum) := by
  refine .bind fun _ _ _ => ?_
  split
  · exact .bind fun _ _ _ => hP.quoted hdatum _ _
  · exact hP.quoted hdatum _ _

theorem begins (hlist : ∀ cursor, ReturnsAt cursor P list) {c : Char}
    (hvisible : isVisible c = true) (cursor : Cursor) :
    ReturnsAt cursor P (Reader.begins datum list c) := by
  refine .bind fun following after hpeek => ?_
  cases hpeek
  split
  · exact .throw _
  · rename_i hclose
    split
    · exact .throw _
    · rename_i hdot
      split
      · exact hP.number _ _
      · rename_i hnumber
        split
        · exact hlist _
        · exact hP.string _
        · exact hP.keyword _
        · exact hP.quoted hdatum _ _
        · exact hP.template hdatum _
        · exact hP.unquoted hdatum _
        · exact hP.unquoted hdatum _
        · exact hP.slash _
        · exact hP.percent _
        · -- All marks but the semicolon have a case of their own.
          have hcomment : c ≠ ';' := by
            rintro rfl
            cases hvisible
          have hmark : isMark c = false := by
            simp_all [isMark]
          exact hP.token hvisible hclose hmark hdot hnumber

end Nested

-- The items read so far are part of what a list returns, so they have the property by assumption.
theorem datum_list (fuel : Nat) :
    (∀ expected cursor, ReturnsAt cursor P (datum fuel expected)) ∧
      ∀ items cursor, (∀ item ∈ items, P item) → ReturnsAt cursor P (list fuel items) := by
  induction fuel with
  | zero => exact ⟨fun _ _ => .throw _, fun _ _ _ => .throw _⟩
  | succ fuel ih =>
      obtain ⟨hdatum, hlist⟩ := ih
      have hempty : ∀ cursor, ReturnsAt cursor P (list fuel []) :=
        fun cursor => hlist [] cursor (by simp)
      refine ⟨fun expected cursor => ?_, fun items cursor hitems => ?_⟩
      · refine .bind fun visible after hvisible => ?_
        cases visible with
        | none => exact .throw _
        | some c => exact hP.begins hdatum hempty (isVisible_of_takeVisible hvisible) after
      · have hreversed : ∀ item ∈ items.reverse, P item :=
          fun item hitem => hitems item (List.mem_reverse.mp hitem)
        refine .bind fun visible after hvisible => ?_
        split
        · exact .throw _
        · exact .pure (hP.ofDotted hreversed hP.emptyList)
        · rename_i c _
          have hbegins := hP.begins hdatum hempty (isVisible_of_takeVisible hvisible)
          refine .bind fun following _ _ => ?_
          split
          · exact .throw _
          · split
            · split
              · exact .bind fun _ _ h => nomatch h
              · refine .bind fun tail _ htail => .bind fun _ _ _ => .pure ?_
                exact hP.ofDotted hreversed (hdatum _ _ _ _ htail)
            · refine .bind fun item last hitem => hlist _ last ?_
              intro other hother
              rcases List.mem_cons.mp hother with rfl | hold
              · exact hbegins _ _ _ hitem
              · exact hitems other hold

end ReadInvariant

omit [RegexEngine] in
theorem ReturnsAt.run {P : α → Prop} {scan : Scan α} {text : List Char}
    (hscan : ReturnsAt ⟨text, []⟩ P scan) {value : α} (h : (scan.run text).outcome = .ok value) :
    P value := by
  rw [Scan.run] at h
  split at h
  · rename_i result cursor hrun
    cases h
    exact hscan _ _ hrun
  · cases h

/-- A call made somewhere in the text returns the value, alone or among others. -/
inductive Returned (text : List Char) (value : Value) : Prop
  | read {rest : List Char} (hrest : rest <:+ text)
      (hread : (read rest).outcome = .ok (some value)) : Returned text value
  | require {rest : List Char} (hrest : rest <:+ text)
      (hread : (require rest).outcome = .ok value) : Returned text value
  | readAll {rest : List Char} {values : List Value} (hrest : rest <:+ text)
      (hread : (readAll rest).outcome = .ok values) (hvalue : value ∈ values) : Returned text value

namespace ReadInvariant

variable {P : Value → Prop} (hP : ReadInvariant P)

include hP

theorem of_require {text : List Char} {value : Value} (h : (require text).outcome = .ok value) :
    P value :=
  ((hP.datum_list (enough text)).1 .datum ⟨text, []⟩).run h

theorem of_read {text : List Char} {value : Value}
    (h : (read text).outcome = .ok (some value)) : P value :=
  hP.of_require (require_of_read h).1

theorem of_readMany {fuel : Nat} {text : List Char} {values : List Value}
    (h : (readMany fuel text).outcome = .ok values) : ∀ value ∈ values, P value := by
  induction fuel generalizing text values with
  | zero =>
      cases h
      simp
  | succ fuel ih =>
      rw [readMany] at h
      split at h
      · cases h
      · cases h
        simp
      · rename_i first rest met hread
        cases hmore : (readMany fuel rest).outcome with
        | error error =>
            simp only [hmore, Except.map] at h
            cases h
        | ok more =>
            simp only [hmore, Except.map] at h
            cases h
            intro value hvalue
            rcases List.mem_cons.mp hvalue with rfl | hrest
            · exact hP.of_read (by rw [hread])
            · exact ih hmore value hrest

theorem of_returned {text : List Char} {value : Value} (h : Returned text value) : P value := by
  cases h with
  | read _ hread => exact hP.of_read hread
  | require _ hread => exact hP.of_require hread
  | readAll _ hread hvalue => exact hP.of_readMany hread value hvalue

end ReadInvariant

theorem readInvariant_isDatum : ReadInvariant Value.IsDatum where
  emptyList := trivial
  cons hfirst hrest := ⟨hfirst, hrest⟩
  mark := isSymbolName_sugar
  number first _ := returnsAt_number first
  string _ := returnsAt_string
  keyword _ := returnsAt_keyword
  slash _ := returnsAt_slash
  percent _ := returnsAt_percent
  token hvisible hclose hmark hdot hnumber :=
    returnsAt_atom fun hliteral => isSymbolName_token hvisible hclose hmark hdot hnumber hliteral

theorem isDatum_of_require {text : List Char} {value : Value}
    (h : (require text).outcome = .ok value) : value.IsDatum :=
  readInvariant_isDatum.of_require h

theorem isDatum_of_read {text : List Char} {value : Value}
    (h : (read text).outcome = .ok (some value)) : value.IsDatum :=
  readInvariant_isDatum.of_read h

theorem isDatum_of_readMany {fuel : Nat} {text : List Char} {values : List Value}
    (h : (readMany fuel text).outcome = .ok values) : ∀ value ∈ values, value.IsDatum :=
  readInvariant_isDatum.of_readMany h

theorem isWritten_of_read {text : List Char} {value : Value}
    (h : (read text).outcome = .ok (some value)) : value.isWritten = true :=
  (isDatum_of_read h).isWritten

theorem isWritten_of_readAll {text : List Char} {values : List Value}
    (h : (readAll text).outcome = .ok values) : ∀ value ∈ values, value.isWritten = true :=
  fun value hvalue => (isDatum_of_readMany h value hvalue).isWritten

theorem isDatum_of_returned {text : List Char} {value : Value} (h : Returned text value) :
    value.IsDatum := by
  cases h with
  | read _ hread => exact isDatum_of_read hread
  | require _ hread => exact isDatum_of_require hread
  | readAll _ hread hvalue => exact isDatum_of_readMany hread value hvalue

end

open scoped Pattern

/-- The text `(%r '::a :k . +b)`. -/
theorem isDatum_of_returned_dotted_pair :
    let text := ['(', '%', 'r', ' ', '\'', ':', ':', 'a', ' ', ':', 'k', ' ', '.', ' ', '+', 'b', ')']
    let value := Value.ofDotted
      [.symbol ⟨"%r"⟩, .ofList [.symbol ⟨"quote"⟩, .symbol ⟨"::a"⟩], .keyword "k"] (.symbol ⟨"+b"⟩)
    Returned text value ∧ value.IsDatum := by
  intro text value
  have hread : (read text).outcome = .ok (some value) := rfl
  have hreturned : Returned text value := .read (List.suffix_refl _) hread
  exact ⟨hreturned, isDatum_of_returned hreturned⟩

end Reader

end Lisplet
