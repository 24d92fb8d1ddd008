import Lisplet.Proofs.Reader.Name

namespace Lisplet.Reader

/-! What the first character of a datum leads to. Where a datum holds others, `datum` and `list` are
the scanners for them. -/

section Marks

variable (datum : Expected → Scan Value) (list : Scan Value)

variable [RegexEngine]

@[simp] theorem begins_open : begins datum list '(' = list := rfl

@[simp] theorem begins_doubleQuote : begins datum list '"' = string := rfl

@[simp] theorem begins_colon : begins datum list ':' = keyword := rfl

@[simp] theorem begins_quote : begins datum list '\'' = quoted datum .quote := rfl

@[simp] theorem begins_backquote : begins datum list '\x60' = template datum := rfl

@[simp] theorem begins_comma : begins datum list ',' = unquoted datum := rfl

@[simp] theorem begins_tilde : begins datum list '~' = unquoted datum := rfl

@[simp] theorem begins_slash : begins datum list '/' = slash := rfl

@[simp] theorem begins_percent : begins datum list '%' = percent := rfl

end Marks

variable {datum : Expected → Scan Value} {list : Scan Value} {text rest : List Char}
  {value : Value}

theorem startsNumber_append {c : Char} {body : List Char}
    (hstart : startsNumber (c :: body) = true) (rest : List Char) :
    NumberText.isDigit c = true ∨
      ((c = '+' ∨ c = '-') ∧ (body ++ rest).head?.any NumberText.isDigit = true) := by
  simp only [startsNumber, Bool.or_eq_true, Bool.and_eq_true, decide_eq_true_eq] at hstart
  rcases hstart with hdigit | ⟨hsign, hdigit⟩
  · exact .inl hdigit
  · refine .inr ⟨hsign, ?_⟩
    cases body with
    | nil => cases hdigit
    | cons d body => exact hdigit

theorem not_startsNumber_append {c : Char} {body : List Char}
    (hstart : startsNumber (c :: body) = false) (hrest : Ends rest) :
    ¬ (NumberText.isDigit c = true ∨
      ((c = '+' ∨ c = '-') ∧ (body ++ rest).head?.any NumberText.isDigit = true)) := by
  simp only [startsNumber, Bool.or_eq_false_iff, Bool.and_eq_false_iff, decide_eq_false_iff_not]
    at hstart
  rintro (hdigit | ⟨hsign, hdigit⟩)
  · simp [hdigit] at hstart
  · rcases hstart.2 with hplain | hnone
    · exact absurd hsign (by simpa using hplain)
    · cases body with
      | cons d body => exact absurd hdigit (by simpa using hnone)
      | nil =>
          cases rest with
          | nil => cases hdigit
          | cons d rest =>
              -- A digit goes on with a token, so it cannot end one.
              have htoken := isTokenChar_of_isDigit (c := d) (by simpa using hdigit)
              rw [isTokenChar, ends_cons.mp hrest] at htoken
              cases htoken

theorem yields_string (literal : String) :
    Yields string (StringLiteral.writeBody literal.toList ++ '"' :: rest) (.str literal) rest := by
  refine yields_get_bind_iff.mpr ?_
  intro met
  refine ⟨met, ?_⟩
  simp only [StringLiteral.readBody_writeBody, String.ofList_toList]
  rfl

theorem yields_keyword {name : List Char} (hname : IsKeywordName name) (hrest : Ends rest) :
    Yields keyword (name ++ rest) (.keyword (String.ofList name)) rest := by
  have hcolon : (name ++ rest).head? ≠ some ':' := by
    cases name with
    | nil => exact absurd rfl hname.nonempty
    | cons c name => exact hname.not_qualified
  refine yields_peek_bind_iff.mpr ?_
  rw [if_neg hcolon]
  refine (yields_takeToken hname.token hrest).bind ?_
  simp only [hname.nonempty, if_false]
  exact .pure _ _

theorem yields_keyword_qualified {body : List Char} (htoken : ∀ d ∈ body, isTokenChar d = true)
    (hrest : Ends rest) :
    Yields keyword (':' :: body ++ rest) (atomOfToken (':' :: ':' :: body)) rest := by
  refine yields_peek_bind_iff.mpr ?_
  rw [if_pos (show (':' :: body ++ rest).head? = some ':' from rfl)]
  exact (yields_take ':' _).bind (yields_atom [':', ':'] htoken hrest)

variable [RegexEngine]

theorem ne_close_of_yields_begins {c : Char} (h : Yields (begins datum list c) text value rest) :
    c ≠ ')' := by
  rintro rfl
  obtain ⟨met, hrun⟩ := h []
  cases hrun

theorem not_ends_of_yields_begins_dot (h : Yields (begins datum list '.') text value rest) :
    ¬ Ends text := by
  intro hends
  unfold begins at h
  rw [yields_peek_bind_iff, if_neg (by decide), if_pos ⟨rfl, hends⟩] at h
  obtain ⟨met, hrun⟩ := h []
  cases hrun

theorem begins_eq_number {c : Char} {body : List Char}
    (hstart : startsNumber (c :: body) = true) (htoken : ∀ d ∈ c :: body, isTokenChar d = true)
    (rest : List Char) (met : List Symbol) :
    begins datum list c ⟨body ++ rest, met⟩ = number c ⟨body ++ rest, met⟩ := by
  have hnumber := startsNumber_append hstart rest
  have hclose : c ≠ ')' := by
    rintro rfl
    exact absurd (htoken ')' (by simp)) (by decide)
  have hdot : c ≠ '.' := by
    rintro rfl
    exact absurd hstart (by simp [startsNumber, NumberText.isDigit])
  have hpeek : peek ⟨body ++ rest, met⟩ = .ok (body ++ rest).head? ⟨body ++ rest, met⟩ := rfl
  unfold begins
  rw [bind_ok hpeek, if_neg hclose, if_neg (fun h => hdot h.1), if_pos hnumber]

theorem yields_begins_number {c : Char} {body : List Char}
    (hvalue : numberOfToken? (c :: body) = some value) (hstart : startsNumber (c :: body) = true)
    (htoken : ∀ d ∈ c :: body, isTokenChar d = true) (hrest : Ends rest) :
    Yields (begins datum list c) (body ++ rest) value rest := by
  have hyields : Yields (number c) (body ++ rest) value rest := by
    refine (yields_takeToken (fun d hd => htoken d (by simp [hd])) hrest).bind ?_
    simp only [hvalue]
    exact .pure _ _
  intro met
  rw [begins_eq_number hstart htoken rest met]
  exact hyields met

/-! Symbols: a slash alone, a token behind a mark, or a token of its own. -/

theorem yields_slash (hrest : Ends rest) : Yields slash rest (.symbol ⟨"/"⟩) rest := by
  refine yields_peek_bind_iff.mpr ?_
  rw [if_pos (show isTerminator rest.head? = true from hrest)]
  exact yields_meet _ _

theorem yields_percent {body : List Char} (hregex : ['r', '\x7b'].isPrefixOf body = false)
    (htoken : ∀ d ∈ body, isTokenChar d = true) (hrest : Ends rest) :
    Yields percent (body ++ rest) (atomOfToken ('%' :: body)) rest := by
  refine yields_peek_bind_iff.mpr ?_
  by_cases hletter : (body ++ rest).head? = some 'r'
  · rw [if_pos hletter]
    cases body with
    | nil =>
        rw [List.nil_append] at hletter
        rw [Ends, hletter] at hrest
        exact absurd hrest (by decide)
    | cons c body =>
        obtain rfl : c = 'r' := by simpa using hletter
        have hbrace : (body ++ rest).head? ≠ some '\x7b' := by
          intro hbrace
          cases body with
          | nil =>
              rw [List.nil_append] at hbrace
              rw [Ends, hbrace] at hrest
              exact absurd hrest (by decide)
          | cons d body =>
              obtain rfl : d = '\x7b' := by simpa using hbrace
              simp at hregex
        refine (yields_take 'r' (body ++ rest)).bind (yields_peek_bind_iff.mpr ?_)
        rw [if_neg hbrace]
        exact yields_atom ['%', 'r'] (fun d hd => htoken d (by simp [hd])) hrest
  · rw [if_neg hletter]
    exact yields_atom ['%'] htoken hrest

theorem yields_begins_marked {c : Char} {body : List Char}
    (hname : isMarkedName (c :: body) = true) (hatom : atomOfToken (c :: body) = value)
    (htoken : ∀ d ∈ body, isTokenChar d = true) (hrest : Ends rest) :
    Yields (begins datum list c) (body ++ rest) value rest := by
  simp only [isMarkedName, Bool.or_eq_true, beq_iff_eq, Bool.and_eq_true,
    Bool.not_eq_true'] at hname
  rcases hname with (hslash | hcolons) | ⟨hpercent, hregex⟩
  · cases hslash
    rw [← hatom]
    exact yields_slash hrest
  · cases body with
    | nil => simp at hcolons
    | cons d body =>
        obtain ⟨rfl, rfl⟩ : ':' = c ∧ ':' = d := by simpa using hcolons
        rw [← hatom]
        exact yields_keyword_qualified (fun e he => htoken e (by simp [he])) hrest
  · obtain rfl : '%' = c := by simpa using hpercent
    rw [← hatom]
    exact yields_percent (by simpa using hregex) htoken hrest

theorem yields_begins_token {c : Char} {body : List Char} (hmark : isMark c = false)
    (hdot : c :: body ≠ ['.']) (hstart : startsNumber (c :: body) = false)
    (hatom : atomOfToken (c :: body) = value)
    (htoken : ∀ d ∈ c :: body, isTokenChar d = true) (hrest : Ends rest) :
    Yields (begins datum list c) (body ++ rest) value rest := by
  have hclose : c ≠ ')' := by
    rintro rfl
    exact absurd (htoken ')' (by simp)) (by decide)
  have hdot' : ¬ (c = '.' ∧ isTerminator (body ++ rest).head? = true) := by
    rintro ⟨rfl, hends⟩
    cases body with
    | nil => exact hdot rfl
    | cons d body =>
        have hd := htoken d (by simp)
        rw [isTokenChar, show isTerminator (some d) = true from hends] at hd
        cases hd
  refine yields_peek_bind_iff.mpr ?_
  rw [if_neg hclose, if_neg hdot', if_neg (not_startsNumber_append hstart hrest), ← hatom]
  split
  case h_10 => exact yields_atom [c] (fun d hd => htoken d (by simp [hd])) hrest
  all_goals exact absurd hmark (by decide)

end Lisplet.Reader
