import Lisplet.Proofs.Reader.Tape.Literal

namespace Lisplet.Reader.Tape

section Data

variable {text rest : List Char} {met : List Symbol} {steps : Nat}

theorem dropLayout_behindComment (text : List Char) :
    dropLayout false (behindComment text) = dropLayout true text := by
  induction text with
  | nil => rfl
  | cons c text ih =>
      rw [dropLayout, if_pos rfl]
      by_cases hc : c = '\n'
      · rw [behindComment, List.dropWhile_cons_of_neg (by simp [hc])]
        simp [hc]
      · rw [behindComment, List.dropWhile_cons_of_pos (by simp [hc])]
        simpa [hc, behindComment] using ih

/-- Where whitespace ends there is nothing, a comment, or something that can be seen. -/
inductive Ink : List Char → Option Char → List Char → Prop
  | ended {text : List Char} : dropLayout false text = [] → Ink text none []
  | comment {text rest : List Char} :
      dropLayout false (behindComment rest) = dropLayout false text →
      rest.length < text.length → Ink text (some ';') rest
  | visible {text rest : List Char} {c : Char} :
      dropLayout false text = c :: rest → c ≠ ';' → Ink text (some c) rest

theorem ink_dropWhile (text : List Char) :
    Ink text (text.dropWhile isWhitespace).head? (text.dropWhile isWhitespace).tail := by
  induction text with
  | nil => exact .ended rfl
  | cons c text ih =>
      cases hc : isWhitespace c with
      | true =>
          rw [List.dropWhile_cons_of_pos hc]
          have hlayout : dropLayout false (c :: text) = dropLayout false text := by
            simp [dropLayout, hc]
          generalize (text.dropWhile isWhitespace).head? = first at ih
          generalize (text.dropWhile isWhitespace).tail = rest at ih
          cases ih with
          | ended h => exact .ended (hlayout.trans h)
          | comment h hlength => exact .comment (h.trans hlayout.symm) (Nat.lt_succ_of_lt hlength)
          | visible h hne => exact .visible (hlayout.trans h) hne
      | false =>
          rw [List.dropWhile_cons_of_neg (by simp [hc])]
          by_cases hcomment : c = ';'
          · subst hcomment
            apply Ink.comment _ (Nat.lt_succ_self _)
            rw [dropLayout_behindComment]
            rfl
          · exact .visible (by simp [dropLayout, hc, hcomment]) hcomment

/-- Whoever looks for a datum goes on behind a comment as if there had been none. -/
theorem Follows.ink_bind {next : Option Char → Pull α} {next' : Option Char → Scan α}
    (hsteps : rest.length < steps)
    (hended : Follows text (next none) ⟨[], met⟩ (next' none ⟨[], met⟩))
    (hcomment : ∀ left, left.length < rest.length →
      Follows text (next (some ';')) ⟨left, met⟩
        ((takeVisible >>= next') ⟨behindComment left, met⟩))
    (hvisible : ∀ c left, c ≠ ';' → left.length < rest.length →
      Follows text (next (some c)) ⟨left, met⟩ (next' (some c) ⟨left, met⟩)) :
    Follows text (drawInk steps >>= next) ⟨rest, met⟩ ((takeVisible >>= next') ⟨rest, met⟩) := by
  apply Follows.ok_bind (follows_drawInk hsteps)
  have hink := ink_dropWhile rest
  generalize (rest.dropWhile isWhitespace).head? = first at hink
  generalize (rest.dropWhile isWhitespace).tail = left at hink
  cases hink with
  | ended hlayout =>
      rw [bind_ok (takeVisible_of_nil hlayout met)]
      exact hended
  | comment hlayout hlength =>
      have hsame : takeVisible ⟨rest, met⟩ = takeVisible ⟨behindComment left, met⟩ := by
        change Reader.take ⟨dropLayout false rest, met⟩ = _
        rw [← hlayout]
        rfl
      have hscan : (takeVisible >>= next') ⟨rest, met⟩ =
          (takeVisible >>= next') ⟨behindComment left, met⟩ := by
        change EStateM.bind takeVisible next' _ = EStateM.bind takeVisible next' _
        rw [EStateM.bind, EStateM.bind, hsame]
      rw [hscan]
      exact hcomment left hlength
  | visible hlayout hne =>
      rename_i c
      have hlength := (dropLayout_suffix false rest).length_le
      rw [hlayout] at hlength
      rw [bind_ok (takeVisible_of_cons hlayout met)]
      exact hvisible c left hne hlength

theorem follows_closePair (hsteps : rest.length < steps) :
    Follows text (closePair steps) ⟨rest, met⟩ (Reader.closePair ⟨rest, met⟩) := by
  induction steps generalizing rest with
  | zero => exact absurd hsteps (Nat.not_lt_zero _)
  | succ steps ih =>
      apply Follows.ink_bind hsteps
      · exact .fail _ _
      · intro left hleft
        have hbehind := (behindComment_suffix left).length_le
        exact (follows_skipComment (by omega)).ok_bind (ih (by omega))
      · intro c left hcomment _
        dsimp only
        by_cases hclose : c = ')'
        · subst hclose
          exact .pure () _
        · rw [if_neg hclose, if_neg hcomment]
          simp only
          exact .fail _ _

variable [RegexEngine]

def first? (fuel : Nat) : Scan (Option Value) := do
  match ← takeVisible with
  | none => return none
  | some c =>
      let value ← Reader.begins (datum fuel) (Reader.list fuel []) c
      return some value

def orMissing' (expected : Expected) : Option Value → Scan Value
  | some value => return value
  | none => throw (.unexpectedEnd expected)

theorem datum_eq (fuel : Nat) (expected : Expected) :
    datum (fuel + 1) expected = first? fuel >>= orMissing' expected := by
  rw [datum, first?, bind_assoc]
  congr 1
  funext visible
  cases visible with
  | none => rfl
  | some c => simp [orMissing']

theorem datum_ended (fuel : Nat) (expected : Expected) (met : List Symbol) :
    datum fuel expected ⟨[], met⟩ = .error (.unexpectedEnd expected) ⟨[], met⟩ := by
  cases fuel with
  | zero => rfl
  | succ fuel => exact bind_ok (takeVisible_of_nil rfl met)

/-- A tape with steps enough looks for a datum as a scan with fuel enough does. -/
def Seeks (text : List Char) (steps : Nat) : Prop :=
  ∀ fuel (place : Cursor), place.rest.length < steps → place.rest.length ≤ fuel →
    Follows text (seek steps) place (first? fuel place)

def Lists (text : List Char) (steps : Nat) : Prop :=
  ∀ fuel items (place : Cursor), place.rest.length < steps → place.rest.length ≤ fuel →
    Follows text (list steps items) place (Reader.list (fuel + 1) items place)

theorem Seeks.follows_required (hseek : Seeks text steps) {fuel : Nat} (expected : Expected)
    {place : Cursor} (hsteps : place.rest.length < steps) (hfuel : place.rest.length < fuel) :
    Follows text (seek steps >>= orMissing expected) place (datum fuel expected place) := by
  obtain ⟨fuel, rfl⟩ : ∃ below, fuel = below + 1 := ⟨fuel - 1, by omega⟩
  rw [datum_eq]
  apply Follows.bind (hseek fuel place hsteps (Nat.le_of_lt_succ hfuel))
  intro value after _
  cases value with
  | none => exact .fail _ _
  | some value => exact .pure _ _

theorem Seeks.requires (hseek : Seeks text steps) {fuel bound : Nat} (hsteps : bound ≤ steps)
    (hfuel : bound ≤ fuel) :
    Requires text bound (fun expected => seek steps >>= orMissing expected) (datum fuel) where
  follows expected _ hplace :=
    hseek.follows_required expected (Nat.lt_of_lt_of_le hplace hsteps)
      (Nat.lt_of_lt_of_le hplace hfuel)
  ended := datum_ended fuel

theorem follows_begins_enough (hseek : Seeks text steps) (hlist : Lists text steps) {fuel : Nat}
    (hsteps : rest.length < steps) (hfuel : rest.length < fuel) {c : Char} (hcomment : c ≠ ';') :
    Follows text
      (begins (fun expected => seek steps >>= orMissing expected) (list steps []) steps c)
      ⟨rest, met⟩
      ((Reader.begins (datum fuel) (Reader.list fuel []) c >>= fun value => pure (some value))
        ⟨rest, met⟩) := by
  obtain ⟨fuel, rfl⟩ : ∃ below, fuel = below + 1 := ⟨fuel - 1, by omega⟩
  exact follows_begins (hseek.requires hsteps hfuel) (Nat.lt_succ_self _) hsteps
    (hlist fuel [] ⟨rest, met⟩ hsteps (Nat.le_of_lt_succ hfuel)) hcomment

theorem datum_suffix {fuel : Nat} {expected : Expected} {value : Value} {after : Cursor}
    (hfuel : rest.length < fuel) (h : datum fuel expected ⟨rest, met⟩ = .ok value after) :
    after.rest <:+ rest :=
  ((framed_datum_list fuel fuel (Nat.le_refl _)).1 expected ⟨rest, met⟩ hfuel).suffix_of_ok h

theorem begins_suffix {fuel : Nat} {c : Char} {value : Value} {after : Cursor}
    (hfuel : rest.length < fuel)
    (h : Reader.begins (datum fuel) (Reader.list fuel []) c ⟨rest, met⟩ = .ok value after) :
    after.rest <:+ rest :=
  (framed_begins_fuel hfuel (Nat.le_refl fuel) c).suffix_of_ok h

theorem begins_comment (required : Expected → Pull Value) (list : Pull Value) (steps : Nat) :
    begins required list steps ';' = skipComment steps >>= fun _ => pure none :=
  rfl

theorem follows_comment (required : Expected → Pull Value) (list : Pull Value)
    (hsteps : rest.length < steps) :
    Follows text (begins required list steps ';') ⟨rest, met⟩
      (.ok none ⟨behindComment rest, met⟩) := by
  rw [begins_comment]
  exact (follows_skipComment hsteps).ok_bind (.pure none _)

theorem seeks_succ (hseek : Seeks text steps) (hlist : Lists text steps) :
    Seeks text (steps + 1) := by
  intro fuel place hsteps hfuel
  apply Follows.ink_bind hsteps
  · exact .pure none _
  · intro left hleft
    have hbehind := (behindComment_suffix left).length_le
    apply Follows.ok_bind (follows_comment _ _ (by omega))
    apply hseek fuel
    · exact Nat.lt_of_le_of_lt hbehind (by omega)
    · exact Nat.le_trans hbehind (by omega)
  · intro c left hcomment hleft
    have hbegins := @follows_begins_enough _ left place.met _ _ hseek hlist fuel (by omega)
      (by omega) c hcomment
    exact hbegins.begun fun value _ _ => .pure (some value) _

theorem follows_tail (hseek : Seeks text steps) {fuel : Nat} (items : List Value)
    (hsteps : rest.length < steps) (hfuel : rest.length < fuel) :
    Follows text
      (seek steps >>= orMissing .dottedPair >>= fun tail =>
        closePair steps >>= fun _ => pure (Value.ofDotted items.reverse tail))
      ⟨rest, met⟩
      ((datum fuel .dottedPair >>= fun tail =>
        Reader.closePair >>= fun _ => pure (Value.ofDotted items.reverse tail)) ⟨rest, met⟩) := by
  apply Follows.bind (hseek.follows_required .dottedPair hsteps hfuel)
  intro tail after htail
  have hafter := (datum_suffix hfuel htail).length_le
  apply Follows.bind (follows_closePair (Nat.lt_of_le_of_lt hafter hsteps))
  exact fun _ _ _ => .pure _ _

theorem lists_succ (hseek : Seeks text steps) (hlist : Lists text steps) :
    Lists text (steps + 1) := by
  intro fuel items place hsteps hfuel
  rw [Reader.list]
  apply Follows.ink_bind hsteps
  · exact .fail _ _
  · intro left hleft
    have hbehind := (behindComment_suffix left).length_le
    dsimp only
    rw [if_neg (by decide)]
    apply Follows.ok_bind (follows_isDotBefore_of_ne (by decide) _ _)
    rw [if_neg Bool.false_ne_true]
    apply Follows.ok_bind (follows_isDotBefore_of_ne (by decide) _ _)
    rw [if_neg Bool.false_ne_true]
    apply Follows.ok_bind (follows_comment _ _ (by omega))
    -- The scan is still in the same step, since it takes comments for layout.
    have hsame := hlist fuel items ⟨behindComment left, place.met⟩
      (Nat.lt_of_le_of_lt hbehind (by omega)) (Nat.le_trans hbehind (by omega))
    rw [Reader.list] at hsame
    exact hsame
  · intro c left hcomment hleft
    obtain ⟨fuel, rfl⟩ : ∃ below, fuel = below + 1 := ⟨fuel - 1, by omega⟩
    have hsteps' : left.length < steps := by omega
    have hfuel' : left.length < fuel + 1 := by omega
    dsimp only
    by_cases hclose : c = ')'
    · subst hclose
      exact .pure _ _
    · rw [if_neg hclose]
      have hpeek : Reader.peek ⟨left, place.met⟩ = .ok left.head? ⟨left, place.met⟩ := rfl
      simp only
      rw [bind_ok hpeek]
      apply Follows.ok_bind (follows_isDotBefore _ _ _)
      by_cases hend : c = '.' ∧ left.head? = none
      · rw [if_pos hend, if_pos (by simp [hend.1, hend.2])]
        exact .fail _ _
      · rw [if_neg hend, if_neg (by simpa using hend)]
        apply Follows.ok_bind (follows_isDotBefore _ _ _)
        by_cases hdot : c = '.' ∧ left.head?.any isWhitespace
        · rw [if_pos hdot, if_pos (by simpa using hdot)]
          by_cases hitems : items.isEmpty
          · rw [if_pos hitems, if_pos hitems]
            exact .fail _ _
          · rw [if_neg hitems, if_neg hitems]
            exact follows_tail hseek items hsteps' hfuel'
        · rw [if_neg hdot, if_neg (by simpa using hdot)]
          apply (follows_begins_enough hseek hlist hsteps' hfuel' hcomment).begun
          intro item after hitem
          have hafter := (begins_suffix hfuel' hitem).length_le
          exact hlist fuel (item :: items) after (Nat.lt_of_le_of_lt hafter hsteps')
            (Nat.le_trans hafter (Nat.le_of_lt_succ hfuel'))

theorem seeks_lists (text : List Char) (steps : Nat) : Seeks text steps ∧ Lists text steps := by
  -- Both call both with one step less, and the fuel is any that suffices.
  induction steps with
  | zero =>
      constructor
      · exact fun _ _ hsteps => absurd hsteps (Nat.not_lt_zero _)
      · exact fun _ _ _ hsteps => absurd hsteps (Nat.not_lt_zero _)
  | succ steps ih => exact ⟨seeks_succ ih.1 ih.2, lists_succ ih.1 ih.2⟩

end Data

end Lisplet.Reader.Tape
