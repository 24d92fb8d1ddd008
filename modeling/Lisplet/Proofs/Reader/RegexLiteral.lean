import Lisplet.Proofs.Reader.Frame
import Lisplet.Proofs.Reader.NumberToken
import Lisplet.Proofs.Reader.Soundness
import Lisplet.Regex.PatternEngine

namespace Lisplet

/-! Regular expressions that are read, and which of them are read again from their own text. The
text always has slashes around the source, and a slash in the source is written as it stands. -/

def Value.regexes : Value → List Regex
  | regex pattern => [pattern]
  | cons first rest => first.regexes ++ rest.regexes
  | _ => []

/-- In the text every backslash comes with the character behind it. -/
def Regex.isPaired : List Char → Bool
  | [] => true
  | ['\\'] => false
  | '\\' :: _ :: rest => isPaired rest
  | _ :: rest => isPaired rest

namespace Reader

open Regex (isPaired)

variable {close : Char} {text source content options rest : List Char}

theorem isPaired_cons {c : Char} (hc : c ≠ '\\') : isPaired (c :: text) = isPaired text := by
  simp [isPaired, hc]

theorem isPaired_of_regexBody (hclose : close ≠ '\\')
    (h : regexBody close text = some (source, rest)) : isPaired source = true := by
  fun_induction regexBody close text generalizing source with
  | case1 => cases h
  | case2 => cases h
  | case3 c text ih =>
      obtain ⟨⟨inner, _⟩, hbody, heq⟩ := Option.map_eq_some_iff.mp h
      cases heq
      have hinner : isPaired inner = true := ih hbody
      rw [regexPair]
      split
      · rename_i hc
        exact (isPaired_cons (hc ▸ hclose)).trans hinner
      · exact hinner
  | case4 =>
      cases h
      rfl
  | case5 c text hlone hpair _ ih =>
      obtain ⟨⟨inner, _⟩, hbody, heq⟩ := Option.map_eq_some_iff.mp h
      cases heq
      exact (isPaired_cons (ne_of_not_pair hlone hpair)).trans (ih hbody)

theorem regexBody_of_not_mem (hpaired : isPaired source = true) (hclose : close ≠ '\\')
    (hsource : close ∉ source) :
    regexBody close (source ++ close :: rest) = some (source, rest) := by
  fun_induction isPaired source with
  | case1 => simp [regexBody, hclose]
  | case2 => cases hpaired
  | case3 c source ih =>
      simp only [List.mem_cons, not_or] at hsource
      simp [regexBody, ih hpaired hsource.2.2, regexPair, Ne.symm hsource.2.1]
  | case4 c source hlone hpair ih =>
      have hbackslash := ne_of_not_pair hlone hpair
      simp only [List.mem_cons, not_or] at hsource
      simp [regexBody, hbackslash, Ne.symm hsource.1, ih hpaired hsource.2]

theorem regexBody_length (hpaired : isPaired source = true) (hclose : close ≠ '\\') :
    ∃ content behind, regexBody close (source ++ close :: rest) = some (content, behind) ∧
      content.length ≤ source.length ∧
        (close ∈ source → content.length < source.length) := by
  fun_induction isPaired source with
  | case1 => exact ⟨[], rest, by simp [regexBody, hclose], by simp⟩
  | case2 => cases hpaired
  | case3 c source ih =>
      obtain ⟨content, behind, hbody, hlength, hshorter⟩ := ih hpaired
      refine ⟨regexPair close c ++ content, behind, by simp [regexBody, hbody], ?_⟩
      rw [regexPair]
      split
      · simp only [List.length_append, List.length_cons, List.length_nil]
        omega
      · rename_i hc
        simp only [List.length_append, List.length_cons, List.length_nil]
        refine ⟨by omega, fun hmem => ?_⟩
        have hsource : close ∈ source := by simpa [hclose, Ne.symm hc] using hmem
        have hless := hshorter hsource
        omega
  | case4 c source hlone hpair ih =>
      have hbackslash := ne_of_not_pair hlone hpair
      by_cases hc : c = close
      · subst hc
        exact ⟨[], source ++ c :: rest, by simp [regexBody, hbackslash], by simp⟩
      · obtain ⟨content, behind, hbody, hlength, hshorter⟩ := ih hpaired
        refine ⟨c :: content, behind, by simp [regexBody, hbackslash, hc, hbody], ?_, ?_⟩
        · simpa using hlength
        · simpa [Ne.symm hc] using hshorter

theorem yields_enclosed {body : List Char → Option (List Char × List Char)} {unterminated : Error}
    (h : body text = some (content, rest)) :
    Yields (enclosed body unterminated) text content rest :=
  fun met => ⟨met, enclosed_of_some h unterminated met⟩

theorem body_of_enclosed {body : List Char → Option (List Char × List Char)} {unterminated : Error}
    {cursor after : Cursor} (h : enclosed body unterminated cursor = .ok content after) :
    ∃ rest, body cursor.rest = some (content, rest) := by
  cases hbody : body cursor.rest with
  | none => cases (enclosed_of_none hbody unterminated cursor.met).symm.trans h
  | some result =>
      obtain ⟨other, rest⟩ := result
      cases (enclosed_of_some hbody unterminated cursor.met).symm.trans h
      exact ⟨rest, rfl⟩

theorem isTokenChar_of_isRegexOption {c : Char} (h : isRegexOption c = true) :
    isTokenChar c = true := by
  simp only [isRegexOption, Bool.or_eq_true, decide_eq_true_eq] at h
  rcases h with (rfl | rfl) | rfl <;> rfl

theorem isTerminator_head?_eq_false_iff :
    isTerminator (source ++ '/' :: options).head? = false ↔
      ∀ c, source.head? = some c → isWhitespace c = false ∧ c ≠ ')' := by
  cases source with
  | nil => simp [isTerminator, isWhitespace]
  | cons c source => simp [isTerminator]

section NoLiteral

variable {cursor : Cursor}

theorem returnsAt_meet_none {value : Value} (h : value.regexes = []) :
    ReturnsAt cursor (fun value => value.regexes = []) (meet value) := by
  cases value with
  | symbol symbol => exact .bind fun _ _ _ => .pure rfl
  | _ => exact .pure h

theorem returnsAt_atom_none (start : List Char) :
    ReturnsAt cursor (fun value => value.regexes = []) (atom start) := by
  refine .bind fun token _ _ => returnsAt_meet_none ?_
  unfold atomOfToken
  split <;> rfl

theorem returnsAt_number_none (first : Char) :
    ReturnsAt cursor (fun value => value.regexes = []) (number first) := by
  refine .bind fun token _ _ => ?_
  dsimp only
  split
  · rename_i value hvalue
    obtain ⟨word, rfl⟩ | ⟨number, rfl⟩ := numberOfToken?_cases hvalue
    · exact .pure rfl
    · exact .pure rfl
  · exact .throw _

theorem returnsAt_string_none : ReturnsAt cursor (fun value => value.regexes = []) string := by
  refine .bind fun _ _ _ => ?_
  split
  · exact .bind fun _ _ _ => .pure rfl
  · exact .bind fun _ _ _ => .throw _

theorem returnsAt_keyword_none : ReturnsAt cursor (fun value => value.regexes = []) keyword := by
  refine .bind fun _ _ _ => ?_
  split
  · exact .bind fun _ _ _ => returnsAt_atom_none _
  · refine .bind fun name _ _ => ?_
    split
    · exact .bind fun _ _ h => nomatch h
    · exact .pure rfl

end NoLiteral

end Reader

section

variable [RegexEngine]

/-- What reading a literal makes sure of. -/
structure Regex.IsRead (pattern : Regex) : Prop where
  paired : isPaired pattern.source.toList = true
  options : ∀ option ∈ pattern.options.toList, Reader.isRegexOption option = true
  compiles : pattern.compile.isOk = true

namespace Reader

open Regex (isPaired)

variable {close : Char} {text source content options rest : List Char}

theorem yields_regex (hbody : regexBody close text = some (source, options ++ rest))
    (hoptions : ∀ option ∈ options, isRegexOption option = true)
    (hcompiles : (Regex.compile ⟨String.ofList source, String.ofList options⟩).isOk = true)
    (hrest : Ends rest) :
    Yields (regex close) text (.regex ⟨String.ofList source, String.ofList options⟩) rest := by
  have hnone : options.find? (fun option => !isRegexOption option) = none := by
    simpa using hoptions
  have htoken : ∀ c ∈ options, isTokenChar c = true :=
    fun c hc => isTokenChar_of_isRegexOption (hoptions c hc)
  rw [regex_eq]
  refine (yields_enclosed hbody).bind ((yields_takeToken htoken hrest).bind ?_)
  simp only [hnone]
  cases hcompile : Regex.compile ⟨String.ofList source, String.ofList options⟩ with
  | error message => rw [hcompile] at hcompiles; cases hcompiles
  | ok find => exact .pure _ _

/-! Whatever is read, its regular expressions come from literals. -/

section Literals

variable {cursor : Cursor}

theorem returnsAt_regex_body (close : Char) :
    ReturnsAt cursor (fun value => ∃ source options rest,
      value = .regex ⟨String.ofList source, String.ofList options⟩ ∧
        regexBody close cursor.rest = some (source, rest) ∧
          (∀ option ∈ options, isRegexOption option = true) ∧
            (Regex.compile ⟨String.ofList source, String.ofList options⟩).isOk = true)
      (regex close) := by
  rw [regex_eq]
  refine .bind fun source _ hsource => .bind fun options _ _ => ?_
  obtain ⟨rest, hbody⟩ := body_of_enclosed hsource
  split
  · exact .throw _
  · rename_i hnone
    have hletters : ∀ option ∈ options, isRegexOption option = true := by simpa using hnone
    split
    · exact .throw _
    · rename_i hcompile
      exact .pure ⟨source, options, rest, rfl, hbody, hletters, by rw [hcompile]; rfl⟩

theorem returnsAt_regex_isRead (hclose : close ≠ '\\') :
    ReturnsAt cursor (fun value => ∀ pattern ∈ value.regexes, pattern.IsRead) (regex close) := by
  refine (returnsAt_regex_body close).mono ?_
  rintro _ ⟨source, options, rest, rfl, hbody, hoptions, hcompiles⟩ pattern hpattern
  obtain rfl := List.mem_singleton.mp hpattern
  refine ⟨?_, ?_, ?_⟩
  · simpa using isPaired_of_regexBody hclose hbody
  · simpa using hoptions
  · exact hcompiles

theorem ReturnsAt.isRead {scan : Scan Value}
    (h : ReturnsAt cursor (fun value => value.regexes = []) scan) :
    ReturnsAt cursor (fun value => ∀ pattern ∈ value.regexes, pattern.IsRead) scan :=
  h.mono fun value hvalue => by simp [hvalue]

theorem returnsAt_slash_isRead :
    ReturnsAt cursor (fun value => ∀ pattern ∈ value.regexes, pattern.IsRead) slash := by
  refine .bind fun _ _ _ => ?_
  split
  · exact (returnsAt_meet_none rfl).isRead
  · exact returnsAt_regex_isRead (by decide)

theorem returnsAt_percent_isRead :
    ReturnsAt cursor (fun value => ∀ pattern ∈ value.regexes, pattern.IsRead) percent := by
  refine .bind fun _ _ _ => ?_
  split
  · refine .bind fun _ _ _ => .bind fun _ _ _ => ?_
    split
    · exact .bind fun _ _ _ => returnsAt_regex_isRead (by decide)
    · exact (returnsAt_atom_none _).isRead
  · exact (returnsAt_atom_none _).isRead

end Literals

theorem readInvariant_regexes :
    ReadInvariant fun value => ∀ pattern ∈ value.regexes, pattern.IsRead where
  emptyList := by simp [Value.regexes]
  cons hfirst hrest := List.forall_mem_append.mpr ⟨hfirst, hrest⟩
  mark := by simp [Value.regexes]
  number first _ := (returnsAt_number_none first).isRead
  string _ := returnsAt_string_none.isRead
  keyword _ := returnsAt_keyword_none.isRead
  slash _ := returnsAt_slash_isRead
  percent _ := returnsAt_percent_isRead
  token _ _ _ _ _ := (returnsAt_atom_none _).isRead

section Spelling

variable {fuel : Nat} {body : List Char}

theorem spells_slashes (hbody : ∀ rest, regexBody '/' (body ++ rest) = some (source, rest))
    (hstart : isTerminator body.head? = false)
    (hoptions : ∀ option ∈ options, isRegexOption option = true)
    (hcompiles : (Regex.compile ⟨String.ofList source, String.ofList options⟩).isOk = true) :
    Spells fuel ('/' :: body ++ options)
      (.regex ⟨String.ofList source, String.ofList options⟩) := by
  refine ⟨'/', body ++ options, rfl, rfl, fun rest hrest => ?_⟩
  have hhead : (body ++ (options ++ rest)).head? = body.head? := by
    cases body with
    | nil => cases hstart
    | cons c body => rfl
  rw [begins_slash, List.append_assoc]
  refine yields_peek_bind_iff.mpr ?_
  rw [hhead, hstart, if_neg (by decide)]
  exact yields_regex (hbody _) hoptions hcompiles hrest

theorem spells_braces (hbody : ∀ rest, regexBody '\x7d' (body ++ rest) = some (source, rest))
    (hoptions : ∀ option ∈ options, isRegexOption option = true)
    (hcompiles : (Regex.compile ⟨String.ofList source, String.ofList options⟩).isOk = true) :
    Spells fuel ('%' :: 'r' :: '\x7b' :: body ++ options)
      (.regex ⟨String.ofList source, String.ofList options⟩) := by
  refine ⟨'%', 'r' :: '\x7b' :: body ++ options, rfl, rfl, fun rest hrest => ?_⟩
  rw [begins_percent, List.cons_append, List.cons_append, List.append_assoc]
  refine yields_peek_bind_iff.mpr ((yields_take 'r' _).bind ?_)
  refine yields_peek_bind_iff.mpr ((yields_take '\x7b' _).bind ?_)
  exact yields_regex (hbody _) hoptions hcompiles hrest

theorem spells_inspect_regex {pattern : Regex} (h : pattern.IsRead)
    (hslash : '/' ∉ pattern.source.toList)
    (hstart : ∀ c, pattern.source.toList.head? = some c → isWhitespace c = false ∧ c ≠ ')') :
    Spells fuel ('/' :: pattern.source.toList ++ '/' :: pattern.options.toList)
      (.regex pattern) := by
  have hbody : ∀ rest, regexBody '/' (pattern.source.toList ++ ['/'] ++ rest) =
      some (pattern.source.toList, rest) := by
    intro rest
    rw [List.append_assoc]
    exact regexBody_of_not_mem h.paired (by decide) hslash
  have hcompiles : (Regex.compile
      ⟨String.ofList pattern.source.toList, String.ofList pattern.options.toList⟩).isOk = true := by
    simpa using h.compiles
  have hspells : Spells fuel ('/' :: (pattern.source.toList ++ ['/']) ++ pattern.options.toList) _ :=
    spells_slashes hbody (isTerminator_head?_eq_false_iff.mpr hstart) h.options hcompiles
  simpa using hspells

end Spelling

theorem returnsAt_slash_source (hpaired : isPaired source = true) {met : List Symbol} :
    ReturnsAt ⟨source ++ '/' :: options, met⟩
      (fun value => ∀ other, value = .regex ⟨String.ofList source, other⟩ →
        '/' ∉ source ∧ isTerminator (source ++ '/' :: options).head? = false) slash := by
  refine .bind fun following after hpeek => ?_
  cases hpeek
  split
  · exact .bind fun _ _ _ => .pure fun _ h => nomatch h
  · rename_i hstart
    refine (returnsAt_regex_body '/').mono ?_
    rintro _ ⟨content, _, _, rfl, hbody, -, -⟩ other heq
    have hcontent : content = source := by
      simpa using congrArg (fun pattern => pattern.source.toList) (Value.regex.inj heq)
    refine ⟨fun hslash => ?_, by simpa using hstart⟩
    have hslashes : '/' ≠ '\\' := by decide
    obtain ⟨_, _, hfound, -, hshorter⟩ := regexBody_length hpaired hslashes
    cases hfound.symm.trans hbody
    exact absurd (hshorter hslash) (by simp [hcontent])

theorem returnsAt_datum_slash {P : Value → Prop} {met : List Symbol}
    (h : ReturnsAt ⟨rest, met⟩ P slash) (fuel : Nat) (expected : Expected) :
    ReturnsAt ⟨'/' :: rest, met⟩ P (datum (fuel + 1) expected) := by
  refine .bind fun visible after hvisible => ?_
  cases (takeVisible_of_cons (dropLayout_visible rfl rest) met).symm.trans hvisible
  exact h

theorem read_regex_iff {pattern : Regex} (h : pattern.IsRead) (names : ClosureNames) :
    (read ((Value.regex pattern).inspect names).toList).outcome = .ok (some (.regex pattern)) ↔
      '/' ∉ pattern.source.toList ∧
        ∀ c, pattern.source.toList.head? = some c → isWhitespace c = false ∧ c ≠ ')' := by
  have htext : ((Value.regex pattern).inspect names).toList =
      '/' :: pattern.source.toList ++ '/' :: pattern.options.toList := by
    simp [Value.inspect, Value.write, Value.Position.place]
  rw [htext, ← @isTerminator_head?_eq_false_iff _ pattern.options.toList]
  constructor
  · intro hread
    exact (returnsAt_datum_slash (returnsAt_slash_source h.paired) _ .datum).run
      (require_of_read hread).1 pattern.options (by simp)
  · rintro ⟨hslash, hstart⟩
    have hread := (spells_inspect_regex h hslash
      (isTerminator_head?_eq_false_iff.mp hstart)).read rfl ends_nil
    simpa using hread.1

/-- Of all the regular expressions that are read, those with no slash in their source survive
printing, unless the source starts with a character at which the opening slash would be taken for
a symbol. -/
theorem regexes_readAgain_iff {text : List Char} {value : Value} (h : Returned text value)
    (names : ClosureNames) :
    ∀ pattern ∈ value.regexes,
      (read ((Value.regex pattern).inspect names).toList).outcome = .ok (some (.regex pattern)) ↔
        '/' ∉ pattern.source.toList ∧
          ∀ c, pattern.source.toList.head? = some c → isWhitespace c = false ∧ c ≠ ')' :=
  fun pattern hpattern => read_regex_iff (readInvariant_regexes.of_returned h pattern hpattern) names

end Reader

end

namespace Reader

open scoped Pattern

/-- The literal `%r{a\}b}m` is printed as `/a}b/m` and survives; `/a\/b/` is printed as `/a/b/` and
does not. -/
theorem regexes_readAgain_iff_both :
    ∃ braces slashes : Value,
      Returned ['%', 'r', '\x7b', 'a', '\\', '\x7d', 'b', '\x7d', 'm'] braces ∧
        Returned ['/', 'a', '\\', '/', 'b', '/'] slashes ∧
          ⟨"a\x7db", "m"⟩ ∈ braces.regexes ∧ ⟨"a/b", ""⟩ ∈ slashes.regexes ∧
            (read ((Value.regex ⟨"a\x7db", "m"⟩).inspect .empty).toList).outcome =
              .ok (some (.regex ⟨"a\x7db", "m"⟩)) ∧
            (read ((Value.regex ⟨"a/b", ""⟩).inspect .empty).toList).outcome ≠
              .ok (some (.regex ⟨"a/b", ""⟩)) := by
  have hbrace : ∀ rest, regexBody '\x7d' (['a', '\\', '\x7d', 'b', '\x7d'] ++ rest) =
      some (['a', '\x7d', 'b'], rest) := fun _ => rfl
  have hslash : ∀ rest, regexBody '/' (['a', '\\', '/', 'b', '/'] ++ rest) =
      some (['a', '/', 'b'], rest) := fun _ => rfl
  have hmultiline : ∀ option ∈ ['m'], isRegexOption option = true := by simp [isRegexOption]
  have hplain : ∀ option ∈ ([] : List Char), isRegexOption option = true := by simp
  have hbraces : Spells 9 ['%', 'r', '\x7b', 'a', '\\', '\x7d', 'b', '\x7d', 'm']
      (.regex ⟨"a\x7db", "m"⟩) :=
    spells_braces hbrace hmultiline (by decide +kernel)
  have hslashes : Spells 6 ['/', 'a', '\\', '/', 'b', '/'] (.regex ⟨"a/b", ""⟩) :=
    spells_slashes hslash rfl hplain (by decide +kernel)
  have hfirst : Returned _ _ := .read (List.suffix_refl _) (hbraces.read rfl ends_nil).1
  have hsecond : Returned _ _ := .read (List.suffix_refl _) (hslashes.read rfl ends_nil).1
  refine ⟨_, _, hfirst, hsecond, List.mem_singleton_self _, List.mem_singleton_self _, ?_, ?_⟩
  · exact (regexes_readAgain_iff hfirst .empty _ (List.mem_singleton_self _)).mpr
      ⟨by simp, by simp [isWhitespace]⟩
  · intro hread
    have hplain := (regexes_readAgain_iff hsecond .empty _ (List.mem_singleton_self _)).mp hread
    exact hplain.1 (by simp)

end Reader

end Lisplet
