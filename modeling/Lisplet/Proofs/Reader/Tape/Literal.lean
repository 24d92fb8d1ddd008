import Lisplet.Proofs.Reader.Tape.Following

namespace Lisplet.Reader.Tape

structure Encloses (body : List Char → Option (List Char × List Char)) (close : Char)
    (pair : Char → List Char) : Prop where
  nil : body [] = none
  closed : ∀ rest, body (close :: rest) = some ([], rest)
  lone : body ['\\'] = none
  paired : ∀ letter rest, body ('\\' :: letter :: rest) =
    (body rest).map fun (content, rest) => (pair letter ++ content, rest)
  other : ∀ c rest, c ≠ close → c ≠ '\\' → body (c :: rest) =
    (body rest).map fun (content, rest) => ([c] ++ content, rest)

theorem encloses_readBody : Encloses StringLiteral.readBody '"' StringLiteral.readPair where
  nil := rfl
  closed _ := rfl
  lone := rfl
  paired _ _ := by simp [StringLiteral.readBody]
  other c rest hclose hbackslash := by simp [StringLiteral.readBody, hbackslash]

theorem encloses_regexBody {close : Char} (hclose : close ≠ '\\') :
    Encloses (regexBody close) close (regexPair close) where
  nil := rfl
  closed rest := by simp [regexBody, hclose]
  lone := rfl
  paired _ _ := by simp [regexBody]
  other c rest hc hbackslash := by simp [regexBody, hc, hbackslash]

section Literals

variable {text rest : List Char} {met : List Symbol} {steps : Nat}

theorem follows_longer {body : List Char → Option (List Char × List Char)} {unterminated : Error}
    {pull : Pull (List Char)} {whole front : List Char}
    (hbody : body whole = (body rest).map fun (content, rest) => (front ++ content, rest))
    (hpull : Follows text pull ⟨rest, met⟩ (Reader.enclosed body unterminated ⟨rest, met⟩)) :
    Follows text (pull >>= fun content => pure (front ++ content)) ⟨rest, met⟩
      (Reader.enclosed body unterminated ⟨whole, met⟩) := by
  cases hrest : body rest with
  | none =>
      rw [hrest] at hbody
      rw [enclosed_of_none hrest] at hpull
      rw [enclosed_of_none hbody]
      exact hpull.error_bind
  | some result =>
      rw [hrest] at hbody
      rw [enclosed_of_some hrest] at hpull
      rw [enclosed_of_some hbody]
      exact hpull.ok_bind (.pure _ _)

theorem follows_enclosed {body : List Char → Option (List Char × List Char)} {close : Char}
    {pair : Char → List Char} (hbody : Encloses body close pair) (unterminated : Error)
    (hsteps : rest.length < steps) :
    Follows text (enclosed close pair unterminated steps) ⟨rest, met⟩
      (Reader.enclosed body unterminated ⟨rest, met⟩) := by
  induction steps generalizing rest with
  | zero => exact absurd hsteps (Nat.not_lt_zero _)
  | succ steps ih =>
      cases rest with
      | nil =>
          rw [enclosed_of_none hbody.nil]
          exact .draw_none (.fail unterminated _)
      | cons c rest =>
          have hrest : rest.length < steps := Nat.lt_of_succ_lt_succ hsteps
          apply Follows.draw_some
          dsimp only
          -- The closing character is no backslash, so the two can be told apart in either order.
          by_cases hclose : c = close
          · rw [if_pos hclose, hclose, enclosed_of_some (hbody.closed rest)]
            exact .pure [] _
          · rw [if_neg hclose]
            by_cases hbackslash : c = '\\'
            · rw [if_pos hbackslash, hbackslash]
              cases rest with
              | nil =>
                  rw [enclosed_of_none hbody.lone]
                  exact .draw_none (.fail unterminated _)
              | cons letter rest =>
                  apply Follows.draw_some
                  exact follows_longer (hbody.paired letter rest) (ih (Nat.lt_of_succ_lt hrest))
            · rw [if_neg hbackslash]
              exact follows_longer (hbody.other c rest hclose hbackslash) (ih hrest)

theorem follows_atom (hsteps : rest.length < steps) (start : List Char) :
    Follows text (atom steps start) ⟨rest, met⟩ (Reader.atom start ⟨rest, met⟩) :=
  .bind (follows_token hsteps) fun _ _ _ => follows_meet _ _

theorem follows_number (hsteps : rest.length < steps) (first : Char) :
    Follows text (number steps first) ⟨rest, met⟩ (Reader.number first ⟨rest, met⟩) := by
  apply Follows.bind (follows_token hsteps)
  intro token after _
  dsimp only
  cases numberOfToken? (first :: token) with
  | none => exact .fail _ _
  | some value => exact .pure _ _

theorem follows_string (hsteps : rest.length < steps) :
    Follows text (string steps) ⟨rest, met⟩ (Reader.string ⟨rest, met⟩) := by
  rw [string_eq]
  exact .bind (follows_enclosed encloses_readBody _ hsteps) fun _ _ _ => .pure _ _

theorem follows_keyword (hsteps : rest.length < steps) :
    Follows text (keyword steps) ⟨rest, met⟩ (Reader.keyword ⟨rest, met⟩) := by
  have hname : rest.head? ≠ some ':' →
      Follows text (keywordName steps) ⟨rest, met⟩ (Reader.keyword ⟨rest, met⟩) := by
    intro hhead
    change Follows text _ _ ((if rest.head? = some ':' then _ else _ : Scan Value) ⟨rest, met⟩)
    rw [if_neg hhead]
    apply Follows.bind (follows_token hsteps)
    intro name after _
    by_cases hnil : name = []
    · rw [if_pos hnil, if_pos hnil]
      exact .fail _ _
    · rw [if_neg hnil, if_neg hnil]
      exact .pure _ _
  cases rest with
  | nil => exact .draw_none (hname (by simp))
  | cons c rest =>
      by_cases hc : c = ':'
      · subst hc
        exact .draw_some (follows_atom (Nat.lt_of_succ_lt hsteps) _)
      · exact .draw_back (if_neg hc) (hname (by simpa using hc))

theorem follows_isDotBefore_of_ne {c : Char} (hc : c ≠ '.') (next : Option Char → Bool)
    (cursor : Cursor) : Follows text (isDotBefore next c) cursor (.ok false cursor) := by
  rw [isDotBefore, if_neg hc]
  exact .pure false cursor

theorem follows_isDotBefore (next : Option Char → Bool) (c : Char) (cursor : Cursor) :
    Follows text (isDotBefore next c) cursor
      (.ok (decide (c = '.') && next cursor.rest.head?) cursor) := by
  by_cases hc : c = '.'
  · rw [isDotBefore, if_pos hc, decide_eq_true hc, Bool.true_and]
    exact (follows_peek cursor).ok_bind (.pure _ _)
  · rw [decide_eq_false hc, Bool.false_and]
    exact follows_isDotBefore_of_ne hc next cursor

theorem follows_beginsNumber (c : Char) (cursor : Cursor) :
    Follows text (beginsNumber c) cursor
      (.ok (decide (NumberText.isDigit c ∨
        ((c = '+' ∨ c = '-') ∧ cursor.rest.head?.any NumberText.isDigit))) cursor) := by
  rw [beginsNumber]
  by_cases hdigit : NumberText.isDigit c
  · rw [if_pos hdigit, decide_eq_true (.inl hdigit)]
    exact .pure true cursor
  · rw [if_neg hdigit]
    by_cases hsign : c = '+' ∨ c = '-'
    · rw [if_pos hsign]
      have hlook : decide (NumberText.isDigit c ∨
          ((c = '+' ∨ c = '-') ∧ cursor.rest.head?.any NumberText.isDigit)) =
            cursor.rest.head?.any NumberText.isDigit := by
        simp [hdigit, hsign]
      rw [hlook]
      exact (follows_peek cursor).ok_bind (.pure _ _)
    · rw [if_neg hsign, decide_eq_false (by simp [hdigit, hsign])]
      exact .pure false cursor

variable [RegexEngine]

theorem follows_regex {close : Char} (hclose : close ≠ '\\') (hsteps : rest.length < steps) :
    Follows text (regex steps close) ⟨rest, met⟩ (Reader.regex close ⟨rest, met⟩) := by
  rw [regex_eq]
  apply Follows.bind (follows_enclosed (encloses_regexBody hclose) _ hsteps)
  intro source after hsource
  have hafter := (framed_enclosed (isBody_regexBody close) _).suffix_of_ok hsource
  apply Follows.bind (follows_token (Nat.lt_of_le_of_lt hafter.length_le hsteps))
  intro options last _
  cases options.find? (fun option => !isRegexOption option) with
  | some option => exact .fail _ _
  | none =>
      dsimp only
      cases Regex.compile ⟨String.ofList source, String.ofList options⟩ with
      | ok find => exact .pure _ _
      | error message => exact .fail _ _

theorem follows_slash (hsteps : rest.length < steps) :
    Follows text (slash steps) ⟨rest, met⟩ (Reader.slash ⟨rest, met⟩) := by
  apply Follows.ok_bind (follows_peek ⟨rest, met⟩)
  change Follows text _ _ ((if isTerminator rest.head? then _ else _ : Scan Value) ⟨rest, met⟩)
  by_cases hend : isTerminator rest.head?
  · rw [if_pos hend, if_pos hend]
    exact follows_meet _ _
  · rw [if_neg hend, if_neg hend]
    exact follows_regex (by decide) hsteps

theorem follows_percentLetter (hsteps : rest.length < steps) :
    Follows text (percentLetter steps) ⟨rest, met⟩
      ((if rest.head? = some '\x7b' then Reader.take >>= fun _ => Reader.regex '\x7d'
        else Reader.atom ['%', 'r'] : Scan Value) ⟨rest, met⟩) := by
  cases rest with
  | nil => exact .draw_none (follows_meet _ _)
  | cons c rest =>
      by_cases hc : c = '\x7b'
      · subst hc
        exact .draw_some (follows_regex (by decide) (Nat.lt_of_succ_lt hsteps))
      · rw [if_neg (by simpa using hc)]
        exact .draw_back (if_neg hc) (follows_atom hsteps _)

theorem follows_percent (hsteps : rest.length < steps) :
    Follows text (percent steps) ⟨rest, met⟩ (Reader.percent ⟨rest, met⟩) := by
  change Follows text _ _ ((if rest.head? = some 'r' then _ else _ : Scan Value) ⟨rest, met⟩)
  cases rest with
  | nil => exact .draw_none (follows_meet _ _)
  | cons c rest =>
      by_cases hc : c = 'r'
      · subst hc
        exact .draw_some (follows_percentLetter (Nat.lt_of_succ_lt hsteps))
      · rw [if_neg (by simpa using hc)]
        exact .draw_back (if_neg hc) (follows_atom hsteps _)

end Literals

section Nested

variable {text rest : List Char} {met : List Symbol} {steps : Nat}
  {required : Expected → Pull Value} {datum : Expected → Scan Value} {list : Pull Value}
  {list' : Scan Value}

/-- `required` reads from any place near enough to the end as `datum` does, which finds nothing at
the end. -/
structure Requires (text : List Char) (bound : Nat) (required : Expected → Pull Value)
    (datum : Expected → Scan Value) : Prop where
  follows : ∀ expected (place : Cursor), place.rest.length < bound →
    Follows text (required expected) place (datum expected place)
  ended : ∀ expected met, datum expected ⟨[], met⟩ = .error (.unexpectedEnd expected) ⟨[], met⟩

variable {bound : Nat} (hrequired : Requires text bound required datum)
  (hbound : rest.length < bound)

include hrequired hbound

theorem follows_quoted (sugar : Sugar) :
    Follows text (quoted required sugar) ⟨rest, met⟩ (Reader.quoted datum sugar ⟨rest, met⟩) :=
  .bind (hrequired.follows _ _ hbound) fun _ _ _ => .pure _ _

theorem follows_template :
    Follows text (template required) ⟨rest, met⟩ (Reader.template datum ⟨rest, met⟩) := by
  apply Follows.bind (hrequired.follows _ _ hbound)
  intro operand after _
  by_cases hsplice : operand.isTagged Sugar.splice.symbol
  · rw [if_pos hsplice, if_pos hsplice]
    exact .fail _ _
  · rw [if_neg hsplice, if_neg hsplice]
    exact .pure _ _

theorem follows_unquoted :
    Follows text (unquoted required) ⟨rest, met⟩ (Reader.unquoted datum ⟨rest, met⟩) := by
  change Follows text _ _ ((if rest.head? = some '@' then _ else _ : Scan Value) ⟨rest, met⟩)
  cases rest with
  | nil =>
      have hscan : Reader.quoted datum .unquote ⟨[], met⟩ =
          .error (.unexpectedEnd (.operand .unquote)) ⟨[], met⟩ :=
        bind_error (hrequired.ended _ met)
      rw [if_neg (by simp), hscan]
      exact .draw_none (.fail _ _)
  | cons c rest =>
      by_cases hc : c = '@'
      · subst hc
        exact .draw_some (follows_quoted hrequired (Nat.lt_of_succ_lt hbound) _)
      · rw [if_neg (by simpa using hc)]
        exact .draw_back (if_neg hc) (follows_quoted hrequired hbound _)

variable [RegexEngine]

theorem follows_marked (hsteps : rest.length < steps)
    (hlist : Follows text list ⟨rest, met⟩ (list' ⟨rest, met⟩)) (c : Char) :
    Follows text (marked required list steps c) ⟨rest, met⟩
      ((match c with
        | '(' => list'
        | '"' => Reader.string
        | ':' => Reader.keyword
        | '\'' => Reader.quoted datum .quote
        | '\x60' => Reader.template datum
        | '~' | ',' => Reader.unquoted datum
        | '/' => Reader.slash
        | '%' => Reader.percent
        | c => Reader.atom [c] : Scan Value) ⟨rest, met⟩) := by
  split
  · exact hlist
  · exact follows_string hsteps
  · exact follows_keyword hsteps
  · exact follows_quoted hrequired hbound _
  · exact follows_template hrequired hbound
  · exact follows_unquoted hrequired hbound
  · exact follows_unquoted hrequired hbound
  · exact follows_slash hsteps
  · exact follows_percent hsteps
  · rw [marked]
    · exact follows_atom hsteps _
    all_goals assumption

theorem follows_begins (hsteps : rest.length < steps)
    (hlist : Follows text list ⟨rest, met⟩ (list' ⟨rest, met⟩)) {c : Char}
    (hcomment : c ≠ ';') :
    Follows text (begins required list steps c) ⟨rest, met⟩
      ((Reader.begins datum list' c >>= fun value => pure (some value)) ⟨rest, met⟩) := by
  change Follows text _ _ (((if c = ')' then _ else if _ then _ else if _ then _ else _ :
    Scan Value) >>= _) ⟨rest, met⟩)
  rw [begins]
  by_cases hclose : c = ')'
  · rw [if_pos hclose, if_pos hclose]
    exact .fail _ _
  · rw [if_neg hclose, if_neg hclose]
    apply Follows.ok_bind (follows_isDotBefore isTerminator c ⟨rest, met⟩)
    by_cases hdot : c = '.' ∧ isTerminator rest.head?
    · rw [if_pos hdot, if_pos (by simpa using hdot)]
      exact .fail _ _
    · rw [if_neg hdot, if_neg (by simpa using hdot)]
      apply Follows.ok_bind (follows_beginsNumber c ⟨rest, met⟩)
      by_cases hnumber : NumberText.isDigit c ∨
          ((c = '+' ∨ c = '-') ∧ rest.head?.any NumberText.isDigit)
      · rw [if_pos hnumber, if_pos (decide_eq_true hnumber)]
        exact .bind (follows_number hsteps c) fun _ _ _ => .pure _ _
      · rw [if_neg hnumber, if_neg (by simpa using hnumber), if_neg hcomment]
        exact .bind (follows_marked hrequired hbound hsteps hlist c) fun _ _ _ => .pure _ _

end Nested

end Lisplet.Reader.Tape
