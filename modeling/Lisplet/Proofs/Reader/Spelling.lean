import Lisplet.Proofs.Reader.Beginning

namespace Lisplet.Reader

/-! Texts that stand for a value wherever they are followed by the end of a token, and the lists
that are put together from them. -/

variable {fuel : Nat} {text front rest final : List Char} {value item : Value}
  {items : List Value}

variable [RegexEngine]

/-- With the given number of steps below it, the text is read as the value. -/
def Spells (fuel : Nat) (text : List Char) (value : Value) : Prop :=
  ∃ c body, text = c :: body ∧ isVisible c = true ∧
    ∀ rest, Ends rest → Yields (begins (datum fuel) (list fuel []) c) (body ++ rest) value rest

theorem Spells.dropLayout_append (h : Spells fuel text value) (rest : List Char) :
    dropLayout false (text ++ rest) = text ++ rest := by
  obtain ⟨c, body, rfl, hvisible, -⟩ := h
  exact dropLayout_visible hvisible _

theorem yields_datum_iff {expected : Expected} :
    Yields (datum (fuel + 1) expected) front value rest ↔
      ∃ c body, dropLayout false front = c :: body ∧
        Yields (begins (datum fuel) (list fuel []) c) body value rest := by
  constructor
  · intro h
    cases hfront : dropLayout false front with
    | nil =>
        obtain ⟨met, hrun⟩ := h []
        cases (bind_ok (takeVisible_of_nil hfront [])).symm.trans hrun
    | cons c body =>
        refine ⟨c, body, rfl, fun met => ?_⟩
        obtain ⟨met', hrun⟩ := h met
        exact ⟨met', (bind_ok (takeVisible_of_cons hfront met)).symm.trans hrun⟩
  · rintro ⟨c, body, hfront, hbegins⟩
    exact (yields_takeVisible hfront).bind hbegins

theorem Spells.yields_datum (h : Spells fuel text value) (expected : Expected)
    (hfront : dropLayout false front = text ++ rest) (hrest : Ends rest) :
    Yields (datum (fuel + 1) expected) front value rest := by
  obtain ⟨c, body, rfl, -, hbegins⟩ := h
  exact yields_datum_iff.mpr ⟨c, body ++ rest, hfront, hbegins rest hrest⟩

theorem yields_list_close (hfront : dropLayout false front = ')' :: rest) :
    Yields (list (fuel + 1) items) front (Value.ofList items.reverse) rest :=
  (yields_takeVisible hfront).bind (.pure _ _)

omit [RegexEngine] in
theorem isTerminator_of_any_isWhitespace {following : Option Char}
    (h : following.any isWhitespace = true) : isTerminator following = true := by
  cases following with
  | none => cases h
  | some c => simpa [isTerminator] using Or.inl h

theorem list_eq_of_item {c : Char} {body : List Char} (hfront : dropLayout false front = c :: body)
    (hclose : c ≠ ')') (hdot : c = '.' → ¬ Ends body) (met : List Symbol) :
    list (fuel + 1) items ⟨front, met⟩ =
      (begins (datum fuel) (list fuel []) c >>= fun item => list fuel (item :: items))
        ⟨body, met⟩ := by
  have hend : ¬ (c = '.' ∧ body.head? = none) := by
    rintro ⟨hc, hnone⟩
    exact hdot hc (by rw [Ends, hnone]; rfl)
  have hpair : ¬ (c = '.' ∧ body.head?.any isWhitespace = true) := by
    rintro ⟨hc, hblank⟩
    exact hdot hc (isTerminator_of_any_isWhitespace hblank)
  have hpeek : peek ⟨body, met⟩ = .ok body.head? ⟨body, met⟩ := rfl
  refine (bind_ok (takeVisible_of_cons hfront met)).trans ?_
  simp only
  rw [bind_ok hpeek, if_neg hend, if_neg hpair]

/-- What is a datum alone is also an item of a list. -/
theorem yields_list_item {expected : Expected}
    (hitem : Yields (datum (fuel + 1) expected) front item rest)
    (hmore : Yields (list fuel (item :: items)) rest value final) :
    Yields (list (fuel + 1) items) front value final := by
  obtain ⟨c, body, hfront, hbegins⟩ := yields_datum_iff.mp hitem
  have hdot : c = '.' → ¬ Ends body := by
    rintro rfl
    exact not_ends_of_yields_begins_dot hbegins
  intro met
  rw [list_eq_of_item hfront (ne_close_of_yields_begins hbegins) hdot met]
  exact hbegins.bind hmore met

theorem Spells.yields_list_item (h : Spells fuel text item)
    (hfront : dropLayout false front = text ++ rest) (hrest : Ends rest)
    (hmore : Yields (list fuel (item :: items)) rest value final) :
    Yields (list (fuel + 1) items) front value final :=
  Reader.yields_list_item (h.yields_datum .datum hfront hrest) hmore

omit [RegexEngine] in
theorem yields_closePair (hrest : dropLayout false rest = ')' :: final) :
    Yields closePair rest () final :=
  (yields_takeVisible hrest).bind (.pure _ _)

theorem yields_list_tail {blank : Char} {middle : List Char} (hitems : items ≠ [])
    (hfront : dropLayout false front = '.' :: blank :: middle) (hblank : isWhitespace blank = true)
    (htail : Yields (datum fuel .dottedPair) (blank :: middle) value rest)
    (hrest : dropLayout false rest = ')' :: final) :
    Yields (list (fuel + 1) items) front (Value.ofDotted items.reverse value) final := by
  refine (yields_takeVisible hfront).bind (yields_peek_bind_iff.mpr ?_)
  have hempty : items.isEmpty = false := by
    simpa using hitems
  rw [if_neg (by simp), if_pos ⟨rfl, hblank⟩]
  simp only [hempty, Bool.false_eq_true, if_false]
  exact htail.bind ((yields_closePair hrest).bind (.pure _ _))

/-! A list in parentheses, from its first item and what follows it. -/

theorem Spells.cons {first following : List Char} {tail : Value} (hfirst : Spells fuel first item)
    (hends : ∀ rest, Ends (following ++ ')' :: rest))
    (hfollowing : ∀ rest,
      Yields (list fuel [item]) (following ++ ')' :: rest) (.cons item tail) rest) :
    Spells (fuel + 1) ('(' :: first ++ following ++ [')']) (.cons item tail) := by
  refine ⟨'(', first ++ following ++ [')'], by simp, rfl, ?_⟩
  intro rest _
  rw [begins_open]
  have htext : first ++ following ++ [')'] ++ rest = first ++ (following ++ ')' :: rest) := by
    simp
  rw [htext]
  exact hfirst.yields_list_item (hfirst.dropLayout_append _) (hends rest) (hfollowing rest)

theorem Spells.yields_quoted (h : Spells fuel text value) (sugar : Sugar) (hrest : Ends rest) :
    Yields (Reader.quoted (datum (fuel + 1)) sugar) (text ++ rest)
      (Value.ofList [.symbol sugar.symbol, value]) rest :=
  (h.yields_datum _ (h.dropLayout_append rest) hrest).bind (.pure _ _)

theorem Spells.quoted (h : Spells fuel text value) :
    Spells (fuel + 1) ('\'' :: text) (Value.ofList [.symbol Sugar.quote.symbol, value]) :=
  ⟨'\'', text, rfl, rfl, fun _ hrest => h.yields_quoted .quote hrest⟩

theorem Spells.template (h : Spells fuel text value)
    (hsplice : value.isTagged Sugar.splice.symbol = false) :
    Spells (fuel + 1) ('\x60' :: text)
      (Value.ofList [.symbol Sugar.quasiquote.symbol, value]) := by
  refine ⟨'\x60', text, rfl, rfl, ?_⟩
  intro rest hrest
  rw [begins_backquote]
  refine (h.yields_datum _ (h.dropLayout_append rest) hrest).bind ?_
  simp only [hsplice, Bool.false_eq_true, if_false]
  exact .pure _ _

theorem Spells.exists_symbol_of_at {body : List Char} (h : Spells fuel ('@' :: body) value) :
    ∃ name : Symbol, value = .symbol name ∧ name.name.toList.head? = some '@' := by
  obtain ⟨c, body, heq, -, hbegins⟩ := h
  cases heq
  obtain ⟨met, hrun⟩ := hbegins [] rfl []
  have hvalue : value = atomOfToken ('@' :: (body ++ []).takeWhile isTokenChar) := by
    obtain ⟨met', hmeet⟩ := yields_meet
      (atomOfToken ('@' :: (body ++ []).takeWhile isTokenChar))
      ((body ++ []).dropWhile isTokenChar) []
    exact (EStateM.Result.ok.inj (hrun.symm.trans hmeet)).1
  rw [atomOfToken_of_not_literal (by simp)] at hvalue
  exact ⟨_, hvalue, by simp⟩

theorem Spells.unquoted (h : Spells fuel text value) (hat : text.head? ≠ some '@') :
    Spells (fuel + 1) (',' :: text) (Value.ofList [.symbol Sugar.unquote.symbol, value]) := by
  refine ⟨',', text, rfl, rfl, ?_⟩
  intro rest hrest
  have hnext : (text ++ rest).head? ≠ some '@' := by
    obtain ⟨c, body, rfl, -, -⟩ := h
    exact hat
  rw [begins_comma]
  refine yields_peek_bind_iff.mpr ?_
  rw [if_neg hnext]
  exact h.yields_quoted .unquote hrest

theorem Spells.spliced (h : Spells fuel text value) :
    Spells (fuel + 1) (',' :: '@' :: text)
      (Value.ofList [.symbol Sugar.splice.symbol, value]) := by
  refine ⟨',', '@' :: text, rfl, rfl, ?_⟩
  intro rest hrest
  rw [begins_comma]
  refine yields_peek_bind_iff.mpr ((yields_take '@' (text ++ rest)).bind ?_)
  exact h.yields_quoted .splice hrest

end Lisplet.Reader
