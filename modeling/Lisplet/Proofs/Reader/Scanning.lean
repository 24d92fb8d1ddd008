import Lisplet.Reader.Datum

namespace Lisplet.Reader

/-! What each scanner takes from the front of a text when the text behind it ends a token. -/

/-- The text is at its end, or a token that came before it ends here. -/
def Ends (rest : List Char) : Prop :=
  isTerminator rest.head? = true

instance (rest : List Char) : Decidable (Ends rest) :=
  inferInstanceAs (Decidable (_ = true))

@[simp] theorem ends_nil : Ends [] := rfl

theorem ends_cons {c : Char} {rest : List Char} :
    Ends (c :: rest) ↔ isTerminator (some c) = true :=
  Iff.rfl

@[simp] theorem ends_space (rest : List Char) : Ends (' ' :: rest) := rfl

@[simp] theorem ends_close (rest : List Char) : Ends (')' :: rest) := rfl

theorem bind_ok {first : EStateM ε σ α} {next : α → EStateM ε σ β} {state after : σ} {value : α}
    (h : first state = .ok value after) : (first >>= next) state = next value after := by
  change EStateM.bind first next state = _
  simp only [EStateM.bind, h]

theorem bind_error {first : EStateM ε σ α} {next : α → EStateM ε σ β} {state after : σ} {error : ε}
    (h : first state = .error error after) : (first >>= next) state = .error error after := by
  change EStateM.bind first next state = _
  simp only [EStateM.bind, h]

/-- Whatever symbols were met before, the scanner succeeds and leaves the given rest. -/
def Yields (scan : Scan α) (text : List Char) (value : α) (rest : List Char) : Prop :=
  ∀ met, ∃ met', scan ⟨text, met⟩ = .ok value ⟨rest, met'⟩

namespace Yields

theorem pure (value : α) (text : List Char) : Yields (pure value) text value text :=
  fun met => ⟨met, rfl⟩

theorem bind {scan : Scan α} {next : α → Scan β} {text middle rest : List Char} {first : α}
    {value : β} (hscan : Yields scan text first middle)
    (hnext : Yields (next first) middle value rest) :
    Yields (scan >>= next) text value rest := by
  intro met
  obtain ⟨met', hfirst⟩ := hscan met
  obtain ⟨met'', hvalue⟩ := hnext met'
  exact ⟨met'', (bind_ok hfirst).trans hvalue⟩

theorem map {scan : Scan α} {text rest : List Char} {first : α}
    (hscan : Yields scan text first rest) (f : α → β) :
    Yields (scan >>= fun value => Pure.pure (f value)) text (f first) rest :=
  hscan.bind (.pure _ _)

end Yields

theorem yields_get_bind_iff {next : Cursor → Scan α} {text rest : List Char} {value : α} :
    Yields (get >>= next) text value rest ↔
      ∀ met, ∃ met', next ⟨text, met⟩ ⟨text, met⟩ = .ok value ⟨rest, met'⟩ :=
  Iff.rfl

theorem yields_peek_bind_iff {next : Option Char → Scan α} {text rest : List Char} {value : α} :
    Yields (peek >>= next) text value rest ↔ Yields (next text.head?) text value rest :=
  Iff.rfl

theorem yields_take (c : Char) (rest : List Char) : Yields take (c :: rest) (some c) rest :=
  fun met => ⟨met, rfl⟩

theorem yields_meet (value : Value) (text : List Char) : Yields (meet value) text value text := by
  intro met
  cases value <;> exact ⟨_, rfl⟩

theorem takeWhile_token {token rest : List Char} (htoken : ∀ c ∈ token, isTokenChar c = true)
    (hrest : Ends rest) : (token ++ rest).takeWhile isTokenChar = token := by
  rw [List.takeWhile_append_of_pos htoken]
  cases rest with
  | nil => simp
  | cons c rest =>
      have hc : isTokenChar c = false := by simpa [isTokenChar] using ends_cons.mp hrest
      simp [hc]

theorem dropWhile_token {token rest : List Char} (htoken : ∀ c ∈ token, isTokenChar c = true)
    (hrest : Ends rest) : (token ++ rest).dropWhile isTokenChar = rest := by
  rw [List.dropWhile_append_of_pos htoken]
  cases rest with
  | nil => rfl
  | cons c rest =>
      have hc : isTokenChar c = false := by simpa [isTokenChar] using ends_cons.mp hrest
      simp [hc]

theorem takeToken_eq_ok {token rest : List Char} (htoken : ∀ c ∈ token, isTokenChar c = true)
    (hrest : Ends rest) (met : List Symbol) :
    takeToken ⟨token ++ rest, met⟩ = .ok token ⟨rest, met⟩ :=
  calc
    takeToken ⟨token ++ rest, met⟩ =
        .ok ((token ++ rest).takeWhile isTokenChar)
          ⟨(token ++ rest).dropWhile isTokenChar, met⟩ := rfl
    _ = .ok token ⟨rest, met⟩ := by
      rw [takeWhile_token htoken hrest, dropWhile_token htoken hrest]

theorem yields_takeToken {token rest : List Char} (htoken : ∀ c ∈ token, isTokenChar c = true)
    (hrest : Ends rest) : Yields takeToken (token ++ rest) token rest :=
  fun met => ⟨met, takeToken_eq_ok htoken hrest met⟩

theorem yields_atom (start : List Char) {token rest : List Char}
    (htoken : ∀ c ∈ token, isTokenChar c = true) (hrest : Ends rest) :
    Yields (atom start) (token ++ rest) (atomOfToken (start ++ token)) rest :=
  (yields_takeToken htoken hrest).bind (yields_meet _ _)

/-! Layout in front of a datum is skipped; a visible character is where it stops. -/

def isVisible (c : Char) : Bool :=
  !isWhitespace c && c ≠ ';'

theorem dropLayout_visible {c : Char} (hc : isVisible c = true) (rest : List Char) :
    dropLayout false (c :: rest) = c :: rest := by
  simp only [isVisible, Bool.and_eq_true, Bool.not_eq_true', decide_eq_true_eq] at hc
  simp [dropLayout, hc.1, hc.2]

theorem dropLayout_suffix (inComment : Bool) (text : List Char) :
    dropLayout inComment text <:+ text := by
  induction text generalizing inComment with
  | nil => exact List.nil_suffix
  | cons c text ih =>
      rw [dropLayout]
      split
      · exact (ih _).trans (List.suffix_cons c text)
      · split
        · exact (ih _).trans (List.suffix_cons c text)
        · split
          · exact (ih _).trans (List.suffix_cons c text)
          · exact List.suffix_refl _

theorem isVisible_of_dropLayout {inComment : Bool} {text rest : List Char} {c : Char}
    (h : dropLayout inComment text = c :: rest) : isVisible c = true := by
  induction text generalizing inComment with
  | nil => cases h
  | cons d text ih =>
      rw [dropLayout] at h
      split at h
      · exact ih h
      · split at h
        · exact ih h
        · rename_i hblank
          split at h
          · exact ih h
          · rename_i hcomment
            cases h
            simp [isVisible, hblank, hcomment]

theorem takeVisible_of_cons {text rest : List Char} {c : Char}
    (h : dropLayout false text = c :: rest) (met : List Symbol) :
    takeVisible ⟨text, met⟩ = .ok (some c) ⟨rest, met⟩ := by
  change take ⟨dropLayout false text, met⟩ = _
  rw [h]
  rfl

theorem takeVisible_of_nil {text : List Char} (h : dropLayout false text = [])
    (met : List Symbol) : takeVisible ⟨text, met⟩ = .ok none ⟨[], met⟩ := by
  change take ⟨dropLayout false text, met⟩ = _
  rw [h]
  rfl

theorem takeVisible_eq_some {cursor after : Cursor} {c : Char}
    (h : takeVisible cursor = .ok (some c) after) :
    dropLayout false cursor.rest = c :: after.rest := by
  cases hrest : dropLayout false cursor.rest with
  | nil => cases (takeVisible_of_nil hrest cursor.met).symm.trans h
  | cons d rest =>
      cases (takeVisible_of_cons hrest cursor.met).symm.trans h
      rfl

theorem isVisible_of_takeVisible {cursor after : Cursor} {c : Char}
    (h : takeVisible cursor = .ok (some c) after) : isVisible c = true :=
  isVisible_of_dropLayout (takeVisible_eq_some h)

theorem takeVisible_eq_none {cursor after : Cursor} (h : takeVisible cursor = .ok none after) :
    after.rest = [] := by
  cases hrest : dropLayout false cursor.rest with
  | nil =>
      cases (takeVisible_of_nil hrest cursor.met).symm.trans h
      rfl
  | cons c rest => cases (takeVisible_of_cons hrest cursor.met).symm.trans h

theorem yields_takeVisible {text rest : List Char} {c : Char}
    (htext : dropLayout false text = c :: rest) : Yields takeVisible text (some c) rest :=
  fun met => ⟨met, takeVisible_of_cons htext met⟩

/-- What comes after the next visible character does not depend on the layout before it. -/
theorem Yields.layout {next : Option Char → Scan α} {front text rest : List Char} {value : α}
    (h : Yields (takeVisible >>= next) text value rest)
    (hfront : dropLayout false front = dropLayout false text) :
    Yields (takeVisible >>= next) front value rest := by
  intro met
  obtain ⟨met', hrun⟩ := h met
  refine ⟨met', ?_⟩
  rw [← hrun]
  cases htext : dropLayout false text with
  | nil =>
      rw [bind_ok (takeVisible_of_nil htext met),
        bind_ok (takeVisible_of_nil (hfront.trans htext) met)]
  | cons c visible =>
      rw [bind_ok (takeVisible_of_cons htext met),
        bind_ok (takeVisible_of_cons (hfront.trans htext) met)]

theorem Scan.run_of_ok {scan : Scan α} {text : List Char} {value : α} {after : Cursor}
    (h : scan ⟨text, []⟩ = .ok value after) :
    scan.run text = ⟨.ok value, after.rest, after.met.reverse⟩ := by
  rw [Scan.run, EStateM.run, h]

theorem Scan.run_of_error {scan : Scan α} {text : List Char} {error : Error} {after : Cursor}
    (h : scan ⟨text, []⟩ = .error error after) :
    scan.run text = ⟨.error error, after.rest, after.met.reverse⟩ := by
  rw [Scan.run, EStateM.run, h]

theorem Scan.run_map (f : α → β) (scan : Scan α) (text : List Char) :
    Scan.run (f <$> scan) text =
      ⟨(scan.run text).outcome.map f, (scan.run text).rest, (scan.run text).met⟩ := by
  rw [← bind_pure_comp, Scan.run, Scan.run]
  cases hrun : EStateM.run scan ⟨text, []⟩ with
  | ok value after =>
      have hbind : EStateM.run (scan >>= fun value => pure (f value)) ⟨text, []⟩ =
          .ok (f value) after := bind_ok hrun
      rw [hbind]
      rfl
  | error error after =>
      have hbind : EStateM.run (scan >>= fun value => pure (f value)) ⟨text, []⟩ =
          .error error after := bind_error hrun
      rw [hbind]
      rfl

variable [RegexEngine]

theorem read_of_visible {text : List Char} (h : dropLayout false text ≠ []) :
    read text = ⟨(require text).outcome.map some, (require text).rest, (require text).met⟩ := by
  rw [read, if_neg h, Scan.run_map]
  rfl

theorem require_of_read {text : List Char} {value : Value}
    (h : (read text).outcome = .ok (some value)) :
    (require text).outcome = .ok value ∧ (require text).rest = (read text).rest := by
  cases hlayout : dropLayout false text with
  | nil =>
      rw [read, if_pos hlayout] at h
      cases h
  | cons c visible =>
      rw [read_of_visible (by simp [hlayout])] at h ⊢
      refine ⟨?_, rfl⟩
      cases houtcome : (require text).outcome with
      | error error =>
          rw [houtcome] at h
          cases h
      | ok other =>
          rw [houtcome] at h
          cases h
          rfl

end Lisplet.Reader
