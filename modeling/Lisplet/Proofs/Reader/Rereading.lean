import Lisplet.Proofs.Reader.PrintedText
import Lisplet.Proofs.Reader.Soundness
import Lisplet.Regex.PatternEngine

namespace Lisplet

/-! Which of the values that are read are read again from their own text: all those without an
ambiguous list in them, and no others. -/

namespace Value

/-- No float, whose text may stand for another one, and no regular expression, at any depth. -/
def isExact : Value → Bool
  | float _ | regex _ => false
  | cons first rest => first.isExact && rest.isExact
  | _ => true

/-- The value itself, the items of the list that it is, their items, and so on. -/
inductive Part : Value → Value → Prop
  | self (value : Value) : Part value value
  | item {value item part : Value} (hitem : item ∈ value.items) (hpart : Part item part) :
      Part value part

def Unambiguous : Position → Value → Prop
  | .alone, value => ∀ part, value.Part part → part.isAmbiguous = false
  | .following, value => ∀ item ∈ value.items, ∀ part, item.Part part → part.isAmbiguous = false

theorem unambiguous_alone {value : Value} :
    value.Unambiguous .alone ↔ value.isAmbiguous = false ∧ value.Unambiguous .following := by
  constructor
  · intro h
    exact ⟨h value (.self value), fun _ hitem part hpart => h part (.item hitem hpart)⟩
  · rintro ⟨hself, hitems⟩ part hpart
    cases hpart with
    | self => exact hself
    | item hitem hpart => exact hitems _ hitem part hpart

theorem unambiguous_following_cons {first rest : Value} :
    (cons first rest).Unambiguous .following ↔
      first.Unambiguous .alone ∧ rest.Unambiguous .following := by
  simp [Unambiguous, items]

theorem isAmbiguous_eq_false {value : Value}
    (h : ∀ sugar : Sugar, ∀ operand, value ≠ .ofList [.symbol sugar.symbol, operand]) :
    value.isAmbiguous = false := by
  unfold isAmbiguous
  split
  · rename_i head operand
    have hunquote : head ≠ Sugar.unquote.symbol := by
      rintro rfl
      exact h .unquote operand rfl
    have hquasiquote : head ≠ Sugar.quasiquote.symbol := by
      rintro rfl
      exact h .quasiquote operand rfl
    simp [hunquote, hquasiquote]
  · rfl

theorem unambiguous_atom {position : Position} {value : Value} (hatom : value.isPair = false) :
    value.Unambiguous position := by
  have hfollowing : value.Unambiguous .following := by
    simp [Unambiguous, items_of_not_pair hatom]
  cases position with
  | following => exact hfollowing
  | alone =>
      refine unambiguous_alone.mpr ⟨isAmbiguous_eq_false ?_, hfollowing⟩
      rintro sugar operand rfl
      cases hatom

theorem readable_atom {position : Position} {value : Value} (hatom : value.isPair = false)
    (hdatum : value.IsDatum) (hexact : value.isExact = true) : value.Readable position := by
  cases value with
  | float => cases hexact
  | regex => cases hexact
  | cons => cases hatom
  | symbol =>
      rw [Readable]
      exact hdatum
  | keyword =>
      rw [Readable]
      exact hdatum
  | closure => cases hdatum
  | primitive => cases hdatum
  | special => cases hdatum
  | _ => simp only [Readable]

theorem readable_iff_unambiguous {position : Position} {value : Value} (hdatum : value.IsDatum)
    (hexact : value.isExact = true) :
    value.Readable position ↔ value.Unambiguous position := by
  induction value generalizing position with
  | cons first rest ihFirst ihRest =>
      rw [isExact, Bool.and_eq_true] at hexact
      rw [IsDatum] at hdatum
      cases position with
      | alone =>
          rw [unambiguous_alone, unambiguous_following_cons, Readable,
            ihFirst hdatum.1 hexact.1, ihRest hdatum.2 hexact.2]
      | following =>
          rw [unambiguous_following_cons, Readable, ihFirst hdatum.1 hexact.1,
            ihRest hdatum.2 hexact.2]
  | _ => exact iff_of_true (readable_atom rfl hdatum hexact) (unambiguous_atom rfl)

end Value

namespace Reader

open Value (Position)

variable {fuel : Nat} {text front rest : List Char} {met : List Symbol}
  {value first tail : Value} {items : List Value}

/-! Texts from which something else than the value is read, or nothing, where a token can end behind
them. -/

section

variable [RegexEngine]

def Misspells (fuel : Nat) (text : List Char) (value : Value) : Prop :=
  ∃ c body, text = c :: body ∧ isVisible c = true ∧ c ≠ ')' ∧ c ≠ '.' ∧
    ∀ rest met, Ends rest →
      ReturnsAt ⟨body ++ rest, met⟩ (· ≠ value) (begins (datum fuel) (list fuel []) c)

omit [RegexEngine] in
theorem ReturnsAt.of_yields {scan : Scan α} {next : α → Scan β} {P : β → Prop} {found : α}
    (hscan : Yields scan front found rest) (hnext : ∀ met, ReturnsAt ⟨rest, met⟩ P (next found)) :
    ReturnsAt ⟨front, met⟩ P (scan >>= next) := by
  refine .bind fun other after hother => ?_
  obtain ⟨met', hfound⟩ := hscan met
  cases hfound.symm.trans hother
  exact hnext met'

theorem Misspells.returnsAt_datum (h : Misspells fuel text value) (expected : Expected)
    (hfront : dropLayout false front = text ++ rest) (hrest : Ends rest) :
    ReturnsAt ⟨front, met⟩ (· ≠ value) (datum (fuel + 1) expected) := by
  obtain ⟨c, body, rfl, -, -, -, hbegins⟩ := h
  exact .of_yields (yields_takeVisible hfront) fun _ => hbegins rest _ hrest

theorem Misspells.dropLayout_append (h : Misspells fuel text value) (rest : List Char) :
    dropLayout false (text ++ rest) = text ++ rest := by
  obtain ⟨c, body, rfl, hvisible, -⟩ := h
  exact dropLayout_visible hvisible _

/-! Lists. What is read keeps the items that were read before. -/

theorem ReturnsAt.list_item {c : Char} {body : List Char} {P : Value → Prop}
    (hfront : dropLayout false front = c :: body) (hclose : c ≠ ')') (hdot : c = '.' → ¬ Ends body)
    (h : ReturnsAt ⟨body, met⟩ P
      (begins (datum fuel) (list fuel []) c >>= fun item => list fuel (item :: items))) :
    ReturnsAt ⟨front, met⟩ P (list (fuel + 1) items) := by
  intro value after hrun
  rw [list_eq_of_item hfront hclose hdot met] at hrun
  exact h value after hrun

theorem returnsAt_list (fuel : Nat) (items : List Value) (cursor : Cursor) :
    ReturnsAt cursor (fun value => ∃ tail, value = .ofDotted items.reverse tail)
      (list fuel items) := by
  induction fuel generalizing items cursor with
  | zero => exact .throw _
  | succ fuel ih =>
      refine .bind fun visible _ _ => ?_
      split
      · exact .throw _
      · exact .pure ⟨_, rfl⟩
      · refine .bind fun _ _ _ => ?_
        split
        · exact .throw _
        · split
          · split
            · exact .bind fun _ _ h => nomatch h
            · exact .bind fun tail _ _ => .bind fun _ _ _ => .pure ⟨tail, rfl⟩
          · refine .bind fun item last _ => (ih (item :: items) last).mono ?_
            rintro _ ⟨tail, rfl⟩
            rw [List.reverse_cons, Value.ofDotted_append]
            exact ⟨_, rfl⟩

omit [RegexEngine] in
theorem ofDotted_ne {other : Value} (hother : other ≠ first) (rest : Value) :
    Value.ofDotted (other :: items).reverse rest ≠ .ofDotted items.reverse (.cons first tail) := by
  rw [List.reverse_cons, Value.ofDotted_append]
  intro heq
  have hcells : Value.cons other rest = .cons first tail := by
    generalize items.reverse = front at heq
    induction front with
    | nil => exact heq
    | cons _ _ ih => exact ih (Value.cons.inj heq).2
  exact hother (Value.cons.inj hcells).1

theorem Misspells.returnsAt_list (h : Misspells fuel text first)
    (hfront : dropLayout false front = text ++ rest) (hrest : Ends rest) :
    ReturnsAt ⟨front, met⟩ (· ≠ .ofDotted items.reverse (.cons first tail))
      (list (fuel + 1) items) := by
  obtain ⟨c, body, rfl, -, hclose, hdot, hbegins⟩ := h
  refine .list_item hfront hclose (fun hc => absurd hc hdot) (.bind fun other middle hother => ?_)
  refine (Reader.returnsAt_list fuel (other :: items) middle).mono ?_
  rintro _ ⟨more, rfl⟩
  exact ofDotted_ne (hbegins rest met hrest other middle hother) more

theorem Spells.returnsAt_list (h : Spells fuel text first)
    (hfront : dropLayout false front = text ++ rest) (hrest : Ends rest)
    (hmore : ∀ met, ReturnsAt ⟨rest, met⟩ (· ≠ .ofDotted (first :: items).reverse tail)
      (list fuel (first :: items))) :
    ReturnsAt ⟨front, met⟩ (· ≠ .ofDotted items.reverse (.cons first tail))
      (list (fuel + 1) items) := by
  obtain ⟨c, body, hfront', hbegins⟩ := yields_datum_iff.mp (h.yields_datum .datum hfront hrest)
  have hdot : c = '.' → ¬ Ends body := by
    rintro rfl
    exact not_ends_of_yields_begins_dot hbegins
  rw [List.reverse_cons, Value.ofDotted_append] at hmore
  exact .list_item hfront' (ne_close_of_yields_begins hbegins) hdot (.of_yields hbegins hmore)

theorem Misspells.returnsAt_quoted (h : Misspells fuel text value) (sugar : Sugar)
    (hrest : Ends rest) :
    ReturnsAt ⟨text ++ rest, met⟩ (· ≠ .ofList [.symbol sugar.symbol, value])
      (quoted (datum (fuel + 1)) sugar) := by
  refine .bind fun operand _ hoperand => .pure ?_
  have hother : operand ≠ value :=
    h.returnsAt_datum _ (h.dropLayout_append rest) hrest _ _ hoperand
  simpa [Value.ofList] using hother

theorem Misspells.returnsAt_template (h : Misspells fuel text value) (hrest : Ends rest) :
    ReturnsAt ⟨text ++ rest, met⟩ (· ≠ .ofList [.symbol Sugar.quasiquote.symbol, value])
      (template (datum (fuel + 1))) := by
  refine .bind fun operand _ hoperand => ?_
  have hother : operand ≠ value :=
    h.returnsAt_datum _ (h.dropLayout_append rest) hrest _ _ hoperand
  split
  · exact .bind fun _ _ h => nomatch h
  · exact .pure (by simpa [Value.ofList] using hother)

theorem Spells.returnsAt_template (h : Spells fuel text value) (hrest : Ends rest)
    (hsplice : value.isTagged Sugar.splice.symbol = true) (P : Value → Prop) :
    ReturnsAt ⟨text ++ rest, met⟩ P (Reader.template (datum (fuel + 1))) := by
  refine .of_yields (h.yields_datum _ (h.dropLayout_append rest) hrest) fun _ => ?_
  simp only [hsplice, if_true]
  exact .bind fun _ _ h => nomatch h

theorem returnsAt_quoted_symbol (sugar : Sugar) (cursor : Cursor) :
    ReturnsAt cursor (fun value => ∃ operand, value = .ofList [.symbol sugar.symbol, operand])
      (quoted (datum fuel) sugar) :=
  .bind fun operand _ _ => .pure ⟨operand, rfl⟩

theorem returnsAt_unquoted (hrest : Ends rest)
    (h : (text ++ rest).head? ≠ some '@' → Misspells fuel text value) :
    ReturnsAt ⟨text ++ rest, met⟩ (· ≠ .ofList [.symbol Sugar.unquote.symbol, value])
      (unquoted (datum (fuel + 1))) := by
  refine .bind fun following after hpeek => ?_
  cases hpeek
  split
  · refine .bind fun _ _ _ => (returnsAt_quoted_symbol .splice _).mono ?_
    rintro _ ⟨operand, rfl⟩
    simp [Value.ofList, Sugar.symbol, Sugar.name]
  · rename_i hat
    exact (h hat).returnsAt_quoted .unquote hrest

/-! Along the printer: what is not readable where it stands is misread. -/

def IsMisread (names : ClosureNames) : Position → Value → Prop
  | .alone, value =>
      ∀ fuel, (value.write names .alone).toList.length ≤ fuel →
        Misspells fuel (value.write names .alone).toList value
  | .following, value =>
      ∀ fuel items rest met, (value.write names .following).toList.length < fuel →
        ReturnsAt ⟨(value.write names .following).toList ++ ')' :: rest, met⟩
          (· ≠ .ofDotted items.reverse value) (list fuel items)

/-- The first of the two parts that is not readable decides. -/
def IsMisreadCell (names : ClosureNames) (first rest : Value) : Prop :=
  IsMisread names .alone first ∨
    ReadsBack names .alone first ∧ IsMisread names .following rest

variable {names : ClosureNames} {operand : Value}

theorem IsMisreadCell.returnsAt_list (h : IsMisreadCell names first tail) {fuel : Nat}
    (items : List Value) (rest : List Char)
    (hfront : dropLayout false front = dropLayout false
      ((first.write names .alone).toList ++ ((tail.write names .following).toList ++ ')' :: rest)))
    (hfuel : (first.write names .alone).toList.length +
      (tail.write names .following).toList.length < fuel) :
    ReturnsAt ⟨front, met⟩ (· ≠ .ofDotted items.reverse (.cons first tail)) (list fuel items) := by
  obtain ⟨steps, rfl⟩ : ∃ steps, fuel = steps + 1 := ⟨fuel - 1, by omega⟩
  obtain hfirst | ⟨hfirst, htail⟩ := h
  · have hmisspells := hfirst steps (by omega)
    exact hmisspells.returnsAt_list (hfront.trans (hmisspells.dropLayout_append _))
      (ends_write_following names tail rest)
  · have hspells := hfirst steps (by omega)
    refine hspells.returnsAt_list (hfront.trans (hspells.dropLayout_append _))
      (ends_write_following names tail rest) fun _ => ?_
    have hpositive : 0 < (first.write names .alone).toList.length := by
      obtain ⟨c, body, hbody, -⟩ := hspells
      rw [hbody]
      exact Nat.succ_pos _
    exact htail steps (first :: items) rest _ (by omega)

theorem isMisread_following_cons (h : IsMisreadCell names first tail) :
    IsMisread names .following (.cons first tail) := by
  intro fuel items rest met hfuel
  rw [toList_write_following_cons] at hfuel ⊢
  simp only [List.cons_append, List.length_cons, List.length_append] at hfuel
  refine h.returnsAt_list items rest ?_ (by omega)
  rw [List.cons_append, List.cons_append, List.append_assoc]
  rfl

theorem isMisread_alone_cons
    (hwrite : (Value.write names .alone (.cons first tail)).toList =
      '(' :: (first.write names .alone).toList ++ (tail.write names .following).toList ++ [')'])
    (h : IsMisreadCell names first tail) : IsMisread names .alone (.cons first tail) := by
  intro fuel hfuel
  rw [hwrite] at hfuel ⊢
  simp only [List.cons_append, List.length_cons, List.length_append, List.length_nil] at hfuel
  refine ⟨'(', _, rfl, rfl, by decide, by decide, fun rest met _ => ?_⟩
  rw [begins_open]
  refine h.returnsAt_list [] rest ?_ (by omega)
  simp

omit [RegexEngine] in
theorem head?_eq_at_of_isAmbiguous (names : ClosureNames)
    (h : Value.isAmbiguous (.ofList [.symbol Sugar.unquote.symbol, operand]) = true)
    (rest : List Char) : ((operand.write names .alone).toList ++ rest).head? = some '@' := by
  cases operand with
  | symbol name =>
      have hname : name.name.toList.head? = some '@' := by
        simpa [Value.ofList, Value.isAmbiguous, Value.symbol?, Sugar.symbol, Sugar.name] using h
      simp [Value.write, Position.place, List.head?_append, hname]
  | _ => simp [Value.ofList, Value.isAmbiguous, Value.symbol?, Sugar.symbol, Sugar.name] at h

theorem isMisread_sugar {sugar : Sugar}
    (h : IsMisread names .alone operand ∨ ReadsBack names .alone operand ∧
      Value.isAmbiguous (.ofList [.symbol sugar.symbol, operand]) = true) :
    IsMisread names .alone (.ofList [.symbol sugar.symbol, operand]) := by
  intro fuel hfuel
  obtain ⟨steps, rfl, hsteps⟩ := exists_steps_of_sugar hfuel
  rw [toList_write_sugar]
  cases sugar with
  | quote =>
      refine ⟨'\'', _, rfl, rfl, by decide, by decide, fun rest met hrest => ?_⟩
      obtain hother | ⟨-, hambiguous⟩ := h
      · exact (hother steps hsteps).returnsAt_quoted .quote hrest
      · simp [Value.ofList, Value.isAmbiguous, Sugar.symbol, Sugar.name] at hambiguous
  | quasiquote =>
      refine ⟨'\x60', _, rfl, rfl, by decide, by decide, fun rest met hrest => ?_⟩
      obtain hother | ⟨hoperand, hambiguous⟩ := h
      · exact (hother steps hsteps).returnsAt_template hrest
      · have hsplice : operand.isTagged Sugar.splice.symbol = true := by
          simpa [Value.ofList, Value.isAmbiguous, Sugar.symbol, Sugar.name] using hambiguous
        exact (hoperand steps hsteps).returnsAt_template hrest hsplice _
  | unquote =>
      refine ⟨',', _, rfl, rfl, by decide, by decide, fun rest met hrest => ?_⟩
      refine returnsAt_unquoted hrest fun hat => ?_
      obtain hother | ⟨-, hambiguous⟩ := h
      · exact hother steps hsteps
      · exact absurd (head?_eq_at_of_isAmbiguous names hambiguous rest) hat
  | splice =>
      refine ⟨',', _, rfl, rfl, by decide, by decide, fun rest met hrest => ?_⟩
      obtain hother | ⟨-, hambiguous⟩ := h
      · exact .of_yields (yields_take '@' _) fun _ =>
          (hother steps hsteps).returnsAt_quoted .splice hrest
      · simp [Value.ofList, Value.isAmbiguous, Sugar.symbol, Sugar.name] at hambiguous

theorem isMisreadCell (hfirst : ¬ first.Readable .alone → IsMisread names .alone first)
    (htail : ¬ tail.Readable .following → IsMisread names .following tail)
    (h : ¬ (first.Readable .alone ∧ tail.Readable .following)) :
    IsMisreadCell names first tail := by
  by_cases hreadable : first.Readable .alone
  · exact .inr ⟨readsBack names hreadable, htail fun hboth => h ⟨hreadable, hboth⟩⟩
  · exact .inl (hfirst hreadable)

theorem isMisread (names : ClosureNames) {position : Position} {value : Value}
    (hdatum : value.IsDatum) (hexact : value.isExact = true) (h : ¬ value.Readable position) :
    IsMisread names position value := by
  -- A list is read from left to right, so up to the first part that is misread all goes well.
  induction position, value using Value.write.induct with
  | case11 head operand sugar hsugar ih =>
      obtain rfl := Sugar.symbol_of_ofSymbol? hsugar
      simp only [Value.isExact, Bool.and_true, Bool.true_and] at hexact
      refine isMisread_sugar ?_
      by_cases hoperand : operand.Readable .alone
      · refine .inr ⟨readsBack names hoperand, eq_true_of_ne_false fun hplain => h ?_⟩
        simp only [Value.Readable, and_true]
        exact ⟨hplain, hdatum.1, hoperand⟩
      · exact .inl (ih hdatum.2.1 hexact hoperand)
  | case12 head operand hsugar ih =>
      have hplain : (Value.cons (.symbol head) (.cons operand .emptyList)).isAmbiguous = false :=
        Value.isAmbiguous_eq_false fun sugar other heq => by
          cases heq
          simp at hsugar
      simp only [Value.isExact, Bool.and_true, Bool.true_and] at hexact
      have hoperand : ¬ operand.Readable .alone := fun hoperand => h (by
        simp only [Value.Readable, and_true]
        exact ⟨hplain, hdatum.1, hoperand⟩)
      refine isMisread_alone_cons (by simp [Value.write, hsugar, Position.place]) (.inr ⟨?_, ?_⟩)
      · exact readsBack_atom rfl (Value.readable_atom rfl hdatum.1 rfl)
      · exact isMisread_following_cons (.inl (ih hdatum.2.1 hexact hoperand))
  | case13 first rest hshape ihFirst ihRest =>
      have hplain : (Value.cons first rest).isAmbiguous = false :=
        Value.isAmbiguous_eq_false fun sugar operand heq => by
          cases heq
          exact hshape _ _ rfl rfl
      have hwrite : Value.write names .alone (.cons first rest) =
          "(" ++ first.write names .alone ++ rest.write names .following ++ ")" := by
        rw [Value.write]
        exact hshape
      rw [Value.isExact, Bool.and_eq_true] at hexact
      rw [Value.Readable] at h
      refine isMisread_alone_cons (by simp [hwrite]) ?_
      exact isMisreadCell (ihFirst hdatum.1 hexact.1) (ihRest hdatum.2 hexact.2)
        fun hboth => h ⟨hplain, hboth⟩
  | case14 first rest ihFirst ihRest =>
      rw [Value.isExact, Bool.and_eq_true] at hexact
      rw [Value.Readable] at h
      exact isMisread_following_cons
        (isMisreadCell (ihFirst hdatum.1 hexact.1) (ihRest hdatum.2 hexact.2) h)
  | _ => exact absurd (Value.readable_atom rfl hdatum hexact) h

/-- What is read prints back readably if it holds no float and no regular expression, except where a
list that is written with a mark is ambiguous. -/
theorem exact_readAgain_iff {text : List Char} {value : Value} (h : Returned text value)
    (hexact : value.isExact = true) (names : ClosureNames) :
    (read (value.inspect names).toList).outcome = .ok (some value) ↔
      ∀ part, value.Part part → part.isAmbiguous = false := by
  have hdatum : value.IsDatum := readInvariant_isDatum.of_returned h
  change _ ↔ value.Unambiguous .alone
  rw [← Value.readable_iff_unambiguous hdatum hexact]
  constructor
  · intro hread
    refine Decidable.byContradiction fun hreadable => ?_
    have hmisspells := isMisread names hdatum hexact hreadable _ (Nat.le_refl _)
    have hother := @Misspells.returnsAt_datum _ _ _ [] [] _ _ hmisspells .datum
      (hmisspells.dropLayout_append []) ends_nil
    rw [List.append_nil] at hother
    exact hother.run (require_of_read hread).1 rfl
  · intro hreadable
    have hspells := readsBack names hreadable _ (Nat.le_refl _)
    have hread := @Spells.read _ _ _ [] _ hspells (by simp) ends_nil
    simpa [Value.inspect] using hread.1

end

open scoped Pattern

/-- The text `('a . (unquote ,@ b))` is printed as `('a unquote ,@b)`, in which only the items are
lists of their own. -/
theorem exact_readAgain_iff_dotted :
    let text := ['(', '\'', 'a', ' ', '.', ' ', '(', 'u', 'n', 'q', 'u', 'o', 't', 'e', ' ', ',', '@',
      ' ', 'b', ')', ')']
    let value := Value.ofList [.ofList [.symbol ⟨"quote"⟩, .symbol ⟨"a"⟩], .symbol ⟨"unquote"⟩,
      .ofList [.symbol ⟨"unquote-splicing"⟩, .symbol ⟨"b"⟩]]
    Returned text value ∧ value.isExact = true ∧
      (read (value.inspect .empty).toList).outcome = .ok (some value) := by
  intro text value
  have hread : (read text).outcome = .ok (some value) := rfl
  have hreturned : Returned text value := .read (List.suffix_refl _) hread
  have hreadable : value.Readable .alone := by decide
  have hparts : ∀ part, value.Part part → part.isAmbiguous = false :=
    (Value.readable_iff_unambiguous (isDatum_of_read hread) rfl).mp hreadable
  exact ⟨hreturned, rfl, (exact_readAgain_iff hreturned rfl .empty).mpr hparts⟩

/-- The text `(unquote @a)` is printed as `,@a`, which is read as a splice, and
`(quasiquote ,@a)` is printed as a template that is refused. -/
theorem ambiguous_readsOther :
    let text := ['(', 'u', 'n', 'q', 'u', 'o', 't', 'e', ' ', '@', 'a', ')']
    let unquote := Value.ofList [.symbol ⟨"unquote"⟩, .symbol ⟨"@a"⟩]
    let splice := Value.ofList [.symbol ⟨"unquote-splicing"⟩, .symbol ⟨"a"⟩]
    let text' := ['(', 'q', 'u', 'a', 's', 'i', 'q', 'u', 'o', 't', 'e', ' ', ',', '@', 'a', ')']
    let template := Value.ofList [.symbol ⟨"quasiquote"⟩, splice]
    (Returned text unquote ∧ unquote.isExact = true ∧
      (read (unquote.inspect .empty).toList).outcome = .ok (some splice) ∧ splice ≠ unquote) ∧
      Returned text' template ∧ template.isExact = true ∧
        (read (template.inspect .empty).toList).outcome = .error .spliceOutsideList := by
  intro text unquote splice text' template
  have hunquote : (read text).outcome = .ok (some unquote) := rfl
  have htemplate : (read text').outcome = .ok (some template) := rfl
  have hcomma : (unquote.inspect .empty).toList = [',', '@', 'a'] := by
    simp [unquote, Value.inspect, Value.write, Value.ofList, Position.place, Sugar.ofSymbol?,
      Sugar.all, Sugar.symbol, Sugar.name, Sugar.mark]
  have hbackquote : (template.inspect .empty).toList = ['\x60', ',', '@', 'a'] := by
    simp [template, splice, Value.inspect, Value.write, Value.ofList, Position.place,
      Sugar.ofSymbol?, Sugar.all, Sugar.symbol, Sugar.name, Sugar.mark]
  refine ⟨⟨.read (List.suffix_refl _) hunquote, rfl, ?_, ?_⟩,
    .read (List.suffix_refl _) htemplate, rfl, ?_⟩
  · rw [hcomma]
    rfl
  · simp [splice, unquote, Value.ofList]
  · rw [hbackquote]
    rfl

end Reader

end Lisplet
