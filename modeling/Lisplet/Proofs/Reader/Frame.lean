import Lisplet.Proofs.Reader.Scanning

namespace Lisplet

/-- The text ended before what was being read did. -/
def Error.isUnfinished : Error → Bool
  | unexpectedEnd _ | unterminatedString | unterminatedRegex => true
  | _ => false

namespace Reader

/-! A scanner sees only the text that it takes and the next character. The symbols met before make
no difference to it, nor does what stands further on, nor do more steps than there are characters. -/

def ending (outcome : Except Error α) (cursor : Cursor) : EStateM.Result Error Cursor α :=
  match outcome with
  | .ok value => .ok value cursor
  | .error error => .error error cursor

/-- The scanner ends with the outcome, having met the symbols `added` and left the rest of the text;
and so does `deeper`, whatever was met before, and whatever stands behind the text unless the
scanner came to its end. -/
structure Frame (cursor : Cursor) (scan deeper : Scan α) (outcome : Except Error α)
    (rest : List Char) (added : List Symbol) : Prop where
  suffix : rest <:+ cursor.rest
  unfinished : ∀ error, outcome = .error error → error.isUnfinished = true → rest = []
  scans : scan cursor = ending outcome ⟨rest, added ++ cursor.met⟩
  deepens : ∀ behind met, behind = [] ∨ rest ≠ [] →
    deeper ⟨cursor.rest ++ behind, met⟩ = ending outcome ⟨rest ++ behind, added ++ met⟩

def Framed (cursor : Cursor) (scan deeper : Scan α) : Prop :=
  ∃ outcome rest added, Frame cursor scan deeper outcome rest added

namespace Framed

variable {cursor : Cursor}

theorem of_run {scan : Scan α} (outcome : Except Error α) (rest : List Char)
    (added : List Symbol) (hsuffix : rest <:+ cursor.rest)
    (hunfinished : ∀ error, outcome = .error error → error.isUnfinished = true → rest = [])
    (hrun : ∀ behind met, behind = [] ∨ rest ≠ [] →
      scan ⟨cursor.rest ++ behind, met⟩ = ending outcome ⟨rest ++ behind, added ++ met⟩) :
    Framed cursor scan scan := by
  refine ⟨outcome, rest, added, hsuffix, hunfinished, ?_, hrun⟩
  simpa using hrun [] cursor.met (.inl rfl)

theorem of_ok {scan : Scan α} (value : α) (rest : List Char) (added : List Symbol)
    (hsuffix : rest <:+ cursor.rest)
    (hrun : ∀ behind met, behind = [] ∨ rest ≠ [] →
      scan ⟨cursor.rest ++ behind, met⟩ = .ok value ⟨rest ++ behind, added ++ met⟩) :
    Framed cursor scan scan :=
  of_run (.ok value) rest added hsuffix (fun _ herror => nomatch herror) hrun

theorem pure (value : α) : Framed cursor (pure value) (pure value) :=
  of_ok value cursor.rest [] (List.suffix_refl _) fun _ _ _ => rfl

theorem throw {error : Error} (hend : error.isUnfinished = true → cursor.rest = []) :
    Framed cursor (throw error : Scan α) (throw error) := by
  refine of_run (.error error) cursor.rest [] (List.suffix_refl _) ?_ fun _ _ _ => rfl
  intro other hother
  cases hother
  exact hend

theorem bind {first first' : Scan α} {next next' : α → Scan β}
    (hfirst : Framed cursor first first')
    (hnext : ∀ value after, first cursor = .ok value after → after.rest <:+ cursor.rest →
      Framed after (next value) (next' value)) :
    Framed cursor (first >>= next) (first' >>= next') := by
  obtain ⟨outcome, rest, added, hframe⟩ := hfirst
  cases outcome with
  | error error =>
      refine ⟨.error error, rest, added, hframe.suffix, ?_, bind_error hframe.scans, ?_⟩
      · intro other hother
        cases hother
        exact hframe.unfinished error rfl
      · intro behind met hbehind
        exact bind_error (hframe.deepens behind met hbehind)
  | ok value =>
      obtain ⟨outcome, rest', added', hlater⟩ := hnext value _ hframe.scans hframe.suffix
      refine ⟨outcome, rest', added' ++ added, hlater.suffix.trans hframe.suffix,
        hlater.unfinished, ?_, ?_⟩
      · rw [bind_ok hframe.scans, hlater.scans, List.append_assoc]
      · intro behind met hbehind
        -- What is left in the end is part of what the first scanner left.
        have hmiddle : behind = [] ∨ rest ≠ [] := by
          refine hbehind.imp_right fun hrest hnil => hrest ?_
          simpa [hnil] using hlater.suffix
        rw [bind_ok (hframe.deepens behind met hmiddle), hlater.deepens behind _ hbehind,
          List.append_assoc]

theorem suffix_of_ok {scan deeper : Scan α} (h : Framed cursor scan deeper) {value : α}
    {after : Cursor} (hrun : scan cursor = .ok value after) : after.rest <:+ cursor.rest := by
  obtain ⟨outcome, rest, added, hframe⟩ := h
  have hresult := hframe.scans.symm.trans hrun
  cases outcome with
  | error error => cases hresult
  | ok value =>
      cases hresult
      exact hframe.suffix

end Framed

/-! What stands behind a text makes no difference before its end. -/

theorem dropLayout_append {inComment : Bool} {text : List Char}
    (h : dropLayout inComment text ≠ []) (behind : List Char) :
    dropLayout inComment (text ++ behind) = dropLayout inComment text ++ behind := by
  induction text generalizing inComment with
  | nil => exact absurd rfl h
  | cons c text ih =>
      rw [List.cons_append]
      rw [dropLayout] at h ⊢
      rw [dropLayout]
      split
      · rename_i hcomment
        rw [if_pos hcomment] at h
        exact ih h
      · rename_i hcomment
        rw [if_neg hcomment] at h
        split
        · rename_i hblank
          rw [if_pos hblank] at h
          exact ih h
        · rename_i hblank
          rw [if_neg hblank] at h
          split
          · rename_i hsemicolon
            rw [if_pos hsemicolon] at h
            exact ih h
          · rfl

theorem takeWhile_append_of_dropWhile_ne_nil {p : Char → Bool} {text : List Char}
    (h : text.dropWhile p ≠ []) (behind : List Char) :
    (text ++ behind).takeWhile p = text.takeWhile p ∧
      (text ++ behind).dropWhile p = text.dropWhile p ++ behind := by
  induction text with
  | nil => exact absurd rfl h
  | cons c text ih =>
      cases hc : p c with
      | true =>
          rw [List.dropWhile_cons_of_pos hc] at h
          simp [hc, ih h]
      | false => simp [hc]

/-! Literals that run up to a closing character. -/

/-- What is taken as the body of a literal does not depend on what follows it. -/
def IsBody (body : List Char → Option (List Char × List Char)) : Prop :=
  ∀ text content rest, body text = some (content, rest) →
    ∃ taken, text = taken ++ rest ∧ ∀ other, body (taken ++ other) = some (content, other)

theorem ne_of_not_pair {c letter : Char} {text : List Char} (hlone : c = letter → text = [] → False)
    (hpair : ∀ d rest, c = letter → text = d :: rest → False) : c ≠ letter := by
  intro hc
  cases text with
  | nil => exact hlone hc rfl
  | cons d rest => exact hpair d rest hc rfl

theorem isBody_readBody : IsBody StringLiteral.readBody := by
  intro text content rest h
  fun_induction StringLiteral.readBody text generalizing content with
  | case1 => cases h
  | case2 text =>
      cases h
      exact ⟨['"'], rfl, fun _ => rfl⟩
  | case3 => cases h
  | case4 letter text ih =>
      obtain ⟨⟨inner, _⟩, hbody, heq⟩ := Option.map_eq_some_iff.mp h
      cases heq
      obtain ⟨taken, rfl, htaken⟩ := ih inner hbody
      refine ⟨'\\' :: letter :: taken, rfl, fun other => ?_⟩
      simp [StringLiteral.readBody, htaken]
  | case5 c text _ hlone hpair ih =>
      have hbackslash := ne_of_not_pair hlone hpair
      obtain ⟨⟨inner, _⟩, hbody, heq⟩ := Option.map_eq_some_iff.mp h
      cases heq
      obtain ⟨taken, rfl, htaken⟩ := ih inner hbody
      refine ⟨c :: taken, rfl, fun other => ?_⟩
      simp [StringLiteral.readBody, hbackslash, htaken]

theorem isBody_regexBody (close : Char) : IsBody (regexBody close) := by
  intro text content rest h
  fun_induction regexBody close text generalizing content with
  | case1 => cases h
  | case2 => cases h
  | case3 c text ih =>
      obtain ⟨⟨inner, _⟩, hbody, heq⟩ := Option.map_eq_some_iff.mp h
      cases heq
      obtain ⟨taken, rfl, htaken⟩ := ih inner hbody
      refine ⟨'\\' :: c :: taken, rfl, fun other => ?_⟩
      simp [regexBody, htaken]
  | case4 text hlone hpair =>
      have hbackslash := ne_of_not_pair hlone hpair
      cases h
      refine ⟨[close], rfl, fun other => ?_⟩
      simp [regexBody, hbackslash]
  | case5 c text hlone hpair hclose ih =>
      have hbackslash := ne_of_not_pair hlone hpair
      obtain ⟨⟨inner, _⟩, hbody, heq⟩ := Option.map_eq_some_iff.mp h
      cases heq
      obtain ⟨taken, rfl, htaken⟩ := ih inner hbody
      refine ⟨c :: taken, rfl, fun other => ?_⟩
      simp [regexBody, hbackslash, hclose, htaken]

def enclosed (body : List Char → Option (List Char × List Char)) (unterminated : Error) :
    Scan (List Char) := do
  match body (← get).rest with
  | some (content, rest) =>
      moveTo rest
      return content
  | none =>
      moveTo []
      throw unterminated

theorem enclosed_eq (body : List Char → Option (List Char × List Char)) (unterminated : Error)
    (text : List Char) (met : List Symbol) :
    enclosed body unterminated ⟨text, met⟩ =
      match body text with
      | some (content, rest) => .ok content ⟨rest, met⟩
      | none => .error unterminated ⟨[], met⟩ := by
  change (match body text with
    | some (content, rest) => moveTo rest >>= fun _ => pure content
    | none => moveTo [] >>= fun _ => throw unterminated : Scan (List Char)) ⟨text, met⟩ = _
  cases body text with
  | none => rfl
  | some found => rfl

theorem enclosed_of_some {body : List Char → Option (List Char × List Char)}
    {text content rest : List Char} (h : body text = some (content, rest)) (unterminated : Error)
    (met : List Symbol) : enclosed body unterminated ⟨text, met⟩ = .ok content ⟨rest, met⟩ := by
  rw [enclosed_eq, h]

theorem enclosed_of_none {body : List Char → Option (List Char × List Char)} {text : List Char}
    (h : body text = none) (unterminated : Error) (met : List Symbol) :
    enclosed body unterminated ⟨text, met⟩ = .error unterminated ⟨[], met⟩ := by
  rw [enclosed_eq, h]

theorem string_eq : string =
    enclosed StringLiteral.readBody .unterminatedString >>= fun text =>
      pure (.str (String.ofList text)) := by
  simp only [string, enclosed, bind_assoc]
  congr 1
  funext cursor
  cases StringLiteral.readBody cursor.rest with
  | none => rfl
  | some result => rfl

theorem regex_eq [RegexEngine] (close : Char) : regex close =
    enclosed (regexBody close) .unterminatedRegex >>= fun source => do
      let options ← takeToken
      match options.find? (fun option => !isRegexOption option) with
      | some option => throw (.unknownRegexOption option)
      | none =>
          match Regex.compile ⟨String.ofList source, String.ofList options⟩ with
          | .error message => throw (.badRegex message)
          | .ok _ => return .regex ⟨String.ofList source, String.ofList options⟩ := by
  simp only [regex, enclosed, bind_assoc]
  congr 1
  funext cursor
  cases regexBody close cursor.rest with
  | none => rfl
  | some result => rfl

section Effects

variable {cursor : Cursor}

theorem framed_peek : Framed cursor peek peek := by
  refine .of_ok cursor.rest.head? cursor.rest [] (List.suffix_refl _) ?_
  intro behind met hbehind
  have hhead : (cursor.rest ++ behind).head? = cursor.rest.head? := by
    rcases hbehind with rfl | hrest
    · rw [List.append_nil]
    · rw [List.head?_append, Option.or_of_isSome (by simpa using hrest)]
  rw [← hhead]
  rfl

theorem framed_take : Framed cursor take take := by
  cases hrest : cursor.rest with
  | nil =>
      refine .of_ok none [] [] List.nil_suffix ?_
      intro behind met hbehind
      obtain rfl : behind = [] := by simpa using hbehind
      rw [hrest]
      rfl
  | cons c rest =>
      refine .of_ok (some c) rest [] (hrest ▸ List.suffix_cons c rest) ?_
      intro behind met _
      rw [hrest]
      rfl

theorem framed_takeVisible : Framed cursor takeVisible takeVisible := by
  have hsuffix := dropLayout_suffix false cursor.rest
  cases hrest : dropLayout false cursor.rest with
  | nil =>
      refine .of_ok none [] [] List.nil_suffix ?_
      intro behind met hbehind
      obtain rfl : behind = [] := by simpa using hbehind
      rw [List.append_nil]
      exact takeVisible_of_nil hrest met
  | cons c rest =>
      rw [hrest] at hsuffix
      refine .of_ok (some c) rest [] ((List.suffix_cons c rest).trans hsuffix) ?_
      intro behind met _
      refine takeVisible_of_cons ?_ met
      rw [dropLayout_append (by simp [hrest]), hrest]
      rfl

theorem framed_takeToken : Framed cursor takeToken takeToken := by
  refine .of_ok (cursor.rest.takeWhile isTokenChar) (cursor.rest.dropWhile isTokenChar) []
    (List.dropWhile_suffix _) ?_
  intro behind met hbehind
  have hrun : takeToken ⟨cursor.rest ++ behind, met⟩ =
      .ok ((cursor.rest ++ behind).takeWhile isTokenChar)
        ⟨(cursor.rest ++ behind).dropWhile isTokenChar, met⟩ := rfl
  rcases hbehind with rfl | hrest
  · simpa using hrun
  · obtain ⟨htake, hdrop⟩ := takeWhile_append_of_dropWhile_ne_nil hrest behind
    rw [hrun, htake, hdrop]
    rfl

theorem framed_meet (value : Value) : Framed cursor (meet value) (meet value) := by
  cases value with
  | symbol symbol =>
      exact .of_ok (.symbol symbol) cursor.rest [symbol] (List.suffix_refl _) fun _ _ _ => rfl
  | _ => exact .of_ok _ cursor.rest [] (List.suffix_refl _) fun _ _ _ => rfl

theorem framed_enclosed {body : List Char → Option (List Char × List Char)} (hbody : IsBody body)
    (unterminated : Error) :
    Framed cursor (enclosed body unterminated) (enclosed body unterminated) := by
  cases hresult : body cursor.rest with
  | none =>
      refine .of_run (.error unterminated) [] [] List.nil_suffix (fun _ _ _ => rfl) ?_
      intro behind met hbehind
      obtain rfl : behind = [] := by simpa using hbehind
      rw [List.append_nil]
      exact enclosed_of_none hresult unterminated met
  | some result =>
      obtain ⟨content, rest⟩ := result
      obtain ⟨taken, hrest, htaken⟩ := hbody _ _ _ hresult
      refine .of_ok content rest [] ⟨taken, hrest.symm⟩ ?_
      intro behind met _
      rw [hrest, List.append_assoc]
      exact enclosed_of_some (htaken _) unterminated met

end Effects

end Reader

end Lisplet
