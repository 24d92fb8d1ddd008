import Lisplet.Proofs.Reader.Incremental
import Lisplet.Proofs.Reader.PrintedText
import Lisplet.Regex.PatternEngine

namespace Lisplet.Reader

/-! A list is read from the texts of its items, whatever these are and however they are laid out. -/

inductive IsLayout : List Char → Prop
  | nil : IsLayout []
  | blank {c : Char} {rest : List Char} :
      isWhitespace c = true → IsLayout rest → IsLayout (c :: rest)
  | comment (body : List Char) {rest : List Char} :
      '\n' ∉ body → IsLayout rest → IsLayout (';' :: body ++ '\n' :: rest)

/-- Layout that ends the token before it. -/
def IsSeparator (text : List Char) : Prop :=
  IsLayout text ∧ text.head?.any isWhitespace = true

theorem dropLayout_comment {body : List Char} (hbody : '\n' ∉ body) (rest : List Char) :
    dropLayout true (body ++ '\n' :: rest) = dropLayout false rest := by
  induction body with
  | nil => simp [dropLayout]
  | cons c body ih =>
      rw [List.mem_cons, not_or] at hbody
      have hc : decide (c ≠ '\n') = true := by simpa using Ne.symm hbody.1
      rw [List.cons_append, dropLayout, if_pos rfl, hc]
      exact ih hbody.2

theorem IsLayout.dropLayout_append {layout : List Char} (h : IsLayout layout) (rest : List Char) :
    dropLayout false (layout ++ rest) = dropLayout false rest := by
  induction h with
  | nil => rfl
  | blank hblank _ ih => simpa [dropLayout, hblank] using ih
  | comment body hbody _ ih =>
      rw [← ih, List.append_assoc, List.cons_append, List.cons_append]
      rw [dropLayout, if_neg (by simp), if_neg (by decide), if_pos rfl]
      exact dropLayout_comment hbody _

theorem IsSeparator.ends {separator : List Char} (h : IsSeparator separator) (rest : List Char) :
    Ends (separator ++ rest) := by
  cases separator with
  | nil => cases h.2
  | cons c separator => exact isTerminator_of_any_isWhitespace h.2

theorem dropLayout_final {final : List Char} (hfinal : final = [] ∨ IsSeparator final)
    (rest : List Char) : dropLayout false (final ++ ')' :: rest) = ')' :: rest := by
  have hclose := dropLayout_visible (show isVisible ')' = true from rfl) rest
  rcases hfinal with rfl | hseparator
  · exact hclose
  · rw [hseparator.1.dropLayout_append, hclose]

theorem ends_final {final : List Char} (hfinal : final = [] ∨ IsSeparator final)
    (rest : List Char) : Ends (final ++ ')' :: rest) := by
  rcases hfinal with rfl | hseparator
  · rfl
  · exact hseparator.ends _

section

variable [RegexEngine]

/-- Wherever a token can end behind it, the text is read as the value. -/
def StandsFor (text : List Char) (value : Value) : Prop :=
  ∀ rest, Ends rest →
    (read (text ++ rest)).outcome = .ok (some value) ∧ (read (text ++ rest)).rest = rest

/-- The texts of some values with a separator between any two of them. -/
inductive Row : List Char → List Value → Prop
  | nil : Row [] []
  | single {text : List Char} {value : Value} : StandsFor text value → Row text [value]
  | cons {text separator rest : List Char} {value next : Value} {values : List Value} :
      StandsFor text value → IsSeparator separator → Row rest (next :: values) →
        Row (text ++ separator ++ rest) (value :: next :: values)

section StandsFor

variable {text rest : List Char} {value : Value}

theorem StandsFor.ne_nil (h : StandsFor text value) : text ≠ [] := by
  rintro rfl
  cases (h [] rfl).1

theorem StandsFor.yields_datum (h : StandsFor text value) (hrest : Ends rest) {fuel : Nat}
    (hfuel : (text ++ rest).length < fuel) (expected : Expected) :
    Yields (datum fuel expected) (text ++ rest) value rest := by
  obtain ⟨hread, hleft⟩ := h rest hrest
  obtain ⟨hvalue, hrequired⟩ := require_of_read hread
  rw [hleft] at hrequired
  obtain ⟨outcome, left, added, hframe⟩ :=
    (framed_datum_list (enough (text ++ rest)) fuel hfuel).1 .datum ⟨text ++ rest, []⟩
      (Nat.lt_succ_self _)
  rw [require, hframe.run] at hvalue hrequired
  obtain rfl : outcome = .ok value := hvalue
  obtain rfl : left = rest := hrequired
  have hdatum : Yields (datum fuel .datum) (text ++ left) value left := by
    intro met
    have hdeeper := hframe.deepens [] met (.inl rfl)
    rw [List.append_nil, List.append_nil] at hdeeper
    exact ⟨added ++ met, hdeeper⟩
  -- What was expected only matters to the message of a failure.
  obtain ⟨steps, rfl⟩ : ∃ steps, fuel = steps + 1 := ⟨fuel - 1, by omega⟩
  exact yields_datum_iff.mpr (yields_datum_iff.mp hdatum)

end StandsFor

/-! The rest of a list, with any number of steps that is enough for it. -/

def Completes (items : List Value) (text : List Char) (value : Value) (rest : List Char) : Prop :=
  ∀ fuel, text.length < fuel → Yields (list fuel items) text value rest

section Completes

variable {items values : List Value} {text rest final : List Char} {value item tail : Value}

theorem completes_close (htext : dropLayout false text = ')' :: rest) :
    Completes items.reverse text (Value.ofList items) rest := by
  intro fuel hfuel
  obtain ⟨steps, rfl⟩ : ∃ steps, fuel = steps + 1 := ⟨fuel - 1, by omega⟩
  have hlist : Yields (list (steps + 1) items.reverse) text (Value.ofList items.reverse.reverse)
      rest := yields_list_close htext
  rwa [List.reverse_reverse] at hlist

theorem Completes.layout {layout : List Char} (hlayout : IsLayout layout)
    (h : Completes items text value rest) : Completes items (layout ++ text) value rest := by
  intro fuel hfuel
  rw [List.length_append] at hfuel
  obtain ⟨steps, rfl⟩ : ∃ steps, fuel = steps + 1 := ⟨fuel - 1, by omega⟩
  exact (h (steps + 1) (by omega)).layout (hlayout.dropLayout_append text)

theorem Completes.cons (hitem : StandsFor text item) (hrest : Ends rest)
    (h : Completes (item :: items) rest value final) :
    Completes items (text ++ rest) value final := by
  intro fuel hfuel
  have hlength := List.length_pos_iff.mpr hitem.ne_nil
  obtain ⟨steps, rfl⟩ : ∃ steps, fuel = steps + 1 := ⟨fuel - 1, by omega⟩
  have hmore := h steps (by rw [List.length_append] at hfuel; omega)
  exact yields_list_item (hitem.yields_datum hrest hfuel .datum) hmore

theorem Row.completes (hrow : Row text values) (hrest : Ends rest)
    (h : Completes (values.reverse ++ items) rest value final) :
    Completes items (text ++ rest) value final := by
  induction hrow generalizing items with
  | nil => exact h
  | single hitem => exact .cons hitem hrest h
  | cons hitem hseparator _ ih =>
      rw [List.append_assoc, List.append_assoc]
      refine .cons hitem (hseparator.ends _) (.layout hseparator.1 (ih ?_))
      simpa using h

theorem completes_tail {separator : List Char} (hitems : items ≠ [])
    (hseparator : IsSeparator separator) (htail : StandsFor text tail) (hrest : Ends rest)
    (hfinal : dropLayout false rest = ')' :: final) :
    Completes items.reverse ('.' :: (separator ++ (text ++ rest))) (Value.ofDotted items tail)
      final := by
  intro fuel hfuel
  rw [List.length_cons, List.length_append] at hfuel
  obtain ⟨steps, rfl⟩ : ∃ steps, fuel = steps + 2 := ⟨fuel - 2, by omega⟩
  have hdatum : Yields (datum (steps + 1) .dottedPair) (text ++ rest) tail rest :=
    htail.yields_datum hrest (by omega) .dottedPair
  have hbehind : Yields (datum (steps + 1) .dottedPair) (separator ++ (text ++ rest)) tail rest :=
    hdatum.layout (hseparator.1.dropLayout_append (text ++ rest))
  cases separator with
  | nil => cases hseparator.2
  | cons blank middle =>
      have hreversed : items.reverse ≠ [] := by simpa using hitems
      have hlist := yields_list_tail hreversed (dropLayout_visible rfl _) hseparator.2 hbehind hfinal
      rwa [List.reverse_reverse] at hlist

end Completes

theorem standsFor_parentheses {inside : List Char} {value : Value}
    (h : ∀ rest, Completes [] (inside ++ rest) value rest) : StandsFor ('(' :: inside) value := by
  intro rest _
  have hvisible : dropLayout false ('(' :: inside ++ rest) = '(' :: (inside ++ rest) :=
    dropLayout_visible rfl _
  have hdatum : Yields (datum (enough ('(' :: inside ++ rest)) .datum) ('(' :: inside ++ rest)
      value rest := by
    refine yields_datum_iff.mpr ⟨'(', inside ++ rest, hvisible, ?_⟩
    rw [begins_open]
    exact h rest _ (Nat.lt_succ_self _)
  rw [read, if_neg (by rw [hvisible]; simp)]
  exact (hdatum.map some).run

/-- Between parentheses, the texts of some values stand for the list of these values. With a dot
and the text of one more value behind them, they stand for the list that ends in that value. -/
theorem standsFor_list {opening row final : List Char} {values : List Value}
    (hopening : IsLayout opening) (hrow : Row row values)
    (hfinal : final = [] ∨ IsSeparator final) :
    StandsFor ('(' :: (opening ++ row ++ final ++ [')'])) (.ofList values) ∧
      ∀ {before after text : List Char} {tail : Value}, values ≠ [] → IsSeparator before →
        IsSeparator after → StandsFor text tail →
          StandsFor ('(' :: (opening ++ row ++ before ++ ['.'] ++ after ++ text ++ final ++ [')']))
            (.ofDotted values tail) := by
  constructor
  · refine standsFor_parentheses fun rest => ?_
    have hinside : Completes [] (row ++ (final ++ ')' :: rest)) (.ofList values) rest := by
      refine hrow.completes (ends_final hfinal rest) ?_
      rw [List.append_nil]
      exact completes_close (dropLayout_final hfinal rest)
    simpa using hinside.layout hopening
  · intro before after text tail hvalues hbefore hafter htext
    refine standsFor_parentheses fun rest => ?_
    have hinside : Completes [] (row ++ (before ++ '.' :: (after ++ (text ++ (final ++ ')' :: rest)))))
        (.ofDotted values tail) rest := by
      refine hrow.completes (hbefore.ends _) (.layout hbefore.1 ?_)
      rw [List.append_nil]
      exact completes_tail hvalues hafter htext (ends_final hfinal rest)
        (dropLayout_final hfinal rest)
    simpa using hinside.layout hopening

theorem standsFor_of_spells {text : List Char} {value : Value}
    (h : ∀ fuel, Spells fuel text value) : StandsFor text value :=
  fun _ hrest => (h _).read rfl hrest

end

open scoped Pattern

/-- The texts `( ;c⏎a b )` and `( ;c⏎a b⏎. :k )`. -/
theorem standsFor_list_two_items :
    let opening := [' ', ';', 'c', '\n']
    let values := [Value.symbol ⟨"a"⟩, .symbol ⟨"b"⟩]
    IsLayout opening ∧ Row ['a', ' ', 'b'] values ∧ IsSeparator [' '] ∧ IsSeparator ['\n'] ∧
      StandsFor [':', 'k'] (.keyword "k") ∧
      StandsFor ('(' :: (opening ++ ['a', ' ', 'b'] ++ [' '] ++ [')'])) (.ofList values) ∧
      StandsFor ('(' :: (opening ++ ['a', ' ', 'b'] ++ ['\n'] ++ ['.'] ++ [' '] ++ [':', 'k'] ++
        [' '] ++ [')'])) (.ofDotted values (.keyword "k")) := by
  intro opening values
  have hopening : IsLayout opening := .blank rfl (.comment ['c'] (by decide) .nil)
  have hspace : IsSeparator [' '] := ⟨.blank rfl .nil, rfl⟩
  have hnewline : IsSeparator ['\n'] := ⟨.blank rfl .nil, rfl⟩
  have hsymbol (name : Symbol) (hname : IsSymbolName name.name.toList) :
      StandsFor name.name.toList (.symbol name) :=
    standsFor_of_spells fun _ => spells_symbol hname
  have ha : StandsFor ['a'] (.symbol ⟨"a"⟩) := hsymbol ⟨"a"⟩ (by decide)
  have hb : StandsFor ['b'] (.symbol ⟨"b"⟩) := hsymbol ⟨"b"⟩ (by decide)
  have hk : StandsFor [':', 'k'] (.keyword "k") :=
    standsFor_of_spells fun _ => spells_keyword (show IsKeywordName "k".toList by decide)
  have hrow : Row ['a', ' ', 'b'] values := .cons ha hspace (.single hb)
  obtain ⟨hproper, hdotted⟩ := standsFor_list hopening hrow (.inr hspace)
  exact ⟨hopening, hrow, hspace, hnewline, hk, hproper,
    hdotted (by simp [values]) hnewline hspace hk⟩

end Lisplet.Reader
