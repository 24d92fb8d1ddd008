import Lisplet.Evaluation.Template
import Lisplet.Proofs.Symbol.Interner
import Lisplet.Value.List
import Lisplet.Value.Object
import Lisplet.Value.Printer

namespace Lisplet

/-! What is told by the identity of symbols is told by their names too, as long as the symbols are
in the table. -/

namespace Object

variable {interner later : Interner} {names : Names}

def Known (interner : Interner) (object : Object) : Prop :=
  ∀ handle ∈ object.handles, ∃ name, interner.name? handle = some name

theorem known_symbol {handle : Handle} :
    (symbol handle).Known interner ↔ ∃ name, interner.name? handle = some name := by
  simp [Known, handles]

theorem known_cons {first rest : Object} :
    (cons first rest).Known interner ↔ first.Known interner ∧ rest.Known interner := by
  simp only [Known, handles, List.mem_append, or_imp, forall_and]

theorem Known.mono {object : Object} (h : object.Known interner)
    (hlater : interner.Precedes later) : object.Known later :=
  fun handle hhandle => (h handle hhandle).imp fun _ hname => hlater.name? hname

theorem symbol_eq_iff {handle other : Handle} (h : (symbol handle).Known interner)
    (hother : (symbol other).Known interner) :
    handle = other ↔ interner.symbol handle = interner.symbol other := by
  obtain ⟨name, hname⟩ := known_symbol.mp h
  obtain ⟨name', hname'⟩ := known_symbol.mp hother
  refine ⟨congrArg interner.symbol, fun heq => ?_⟩
  rw [interner.symbol_eq hname, interner.symbol_eq hname'] at heq
  cases heq
  exact interner.eq_of_name? hname hname'

/-- Objects that are the same by identity have the same values, and the other way round. -/
theorem same_eq {left right : Object} (hleft : left.Known interner)
    (hright : right.Known interner) :
    left.same right = (left.value interner).same (right.value interner) := by
  induction left generalizing right with
  | symbol handle =>
      cases right with
      | symbol other =>
          change (handle == other) = (interner.symbol handle == interner.symbol other)
          rw [Bool.eq_iff_iff, beq_iff_eq, beq_iff_eq]
          exact symbol_eq_iff hleft hright
      | _ => rfl
  | cons first rest ihFirst ihRest =>
      cases right with
      | cons first' rest' =>
          obtain ⟨hfirst, hrest⟩ := known_cons.mp hleft
          obtain ⟨hfirst', hrest'⟩ := known_cons.mp hright
          exact congrArg₂ and (ihFirst hfirst hfirst') (ihRest hrest hrest')
      | _ => rfl
  | _ => cases right <;> rfl

theorem isTagged_sugar (hnames : names.Known interner) {object : Object}
    (h : object.Known interner) (sugar : Sugar) :
    object.isTagged (names.sugar sugar) = (object.value interner).isTagged sugar.symbol := by
  cases object with
  | cons first rest =>
      cases first with
      | symbol head =>
          cases rest with
          | cons operand tail =>
              cases tail with
              | emptyList =>
                  obtain ⟨name, hname⟩ := known_symbol.mp (known_cons.mp h).1
                  refine decide_eq_decide.mpr ?_
                  rw [interner.symbol_eq hname, hnames.sugar_eq_iff hname]
                  exact ⟨congrArg Symbol.mk, congrArg Symbol.name⟩
              | _ => rfl
          | _ => rfl
      | _ => rfl
  | _ => rfl

theorem form?_eq (hnames : names.Known interner) {object : Object} (h : object.Known interner) :
    names.form? object = (object.value interner).symbol?.bind SpecialForm.ofSymbol? := by
  cases object with
  | symbol handle =>
      obtain ⟨name, hname⟩ := known_symbol.mp h
      refine (hnames.specialForm?_eq hname).trans ?_
      rw [value, interner.symbol_eq hname]
      rfl
  | _ => rfl

theorem mark?_eq (hnames : names.Known interner) {object : Object} (h : object.Known interner) :
    names.mark? object = Template.mark? (object.value interner) := by
  cases object with
  | symbol handle =>
      obtain ⟨name, hname⟩ := known_symbol.mp h
      have hsame : ∀ sugar : Sugar,
          handle = names.sugar sugar ↔ interner.symbol handle = sugar.symbol := by
        intro sugar
        rw [interner.symbol_eq hname, hnames.sugar_eq_iff hname]
        exact ⟨congrArg Symbol.mk, congrArg Symbol.name⟩
      change (if handle = names.sugar .unquote then _ else if handle = names.sugar .splice then _
          else _) =
        if interner.symbol handle = _ then _ else if interner.symbol handle = _ then _ else _
      simp only [hsame]
  | _ => rfl

/-- Whether a quotation mark stands for an object when it is printed, which special form it is and
which mark of a template it begins with are the same by identity and by name. -/
structure Recognized (interner : Interner) (names : Names) (object : Object) : Prop where
  tagged : ∀ sugar, object.isTagged (names.sugar sugar) =
    (object.value interner).isTagged sugar.symbol
  form : names.form? object = (object.value interner).symbol?.bind SpecialForm.ofSymbol?
  mark : names.mark? object = Template.mark? (object.value interner)
  quotation : ∀ (closures : ClosureNames) (sugar : Sugar),
    object.isTagged (names.sugar sugar) = true →
      ∃ operand, object = .ofList [.symbol (names.sugar sugar), operand] ∧
        (object.value interner).inspect closures =
          sugar.mark ++ (operand.value interner).inspect closures
  list : ∀ (closures : ClosureNames) (first rest : Object), object = .cons first rest →
    (∀ sugar, object.isTagged (names.sugar sugar) = false) →
      (object.value interner).inspect closures =
        "(" ++ (first.value interner).inspect closures ++
          (rest.value interner).write closures .following ++ ")"

theorem exists_of_isTagged {object : Object} {tag : Handle} (h : object.isTagged tag = true) :
    ∃ operand, object = ofList [symbol tag, operand] := by
  match object, h with
  | cons (symbol head) (cons operand emptyList), h =>
      obtain rfl : head = tag := of_decide_eq_true h
      exact ⟨operand, rfl⟩

theorem recognized (hnames : names.Known interner) {object : Object} (h : object.Known interner) :
    Recognized interner names object where
  tagged := isTagged_sugar hnames h
  form := form?_eq hnames h
  mark := mark?_eq hnames h
  quotation closures sugar htagged := by
    obtain ⟨operand, rfl⟩ := exists_of_isTagged htagged
    refine ⟨operand, rfl, ?_⟩
    change (Value.ofList [.symbol (interner.symbol (names.sugar sugar)),
      operand.value interner]).inspect closures = _
    rw [interner.symbol_eq (hnames.sugar sugar)]
    exact Value.inspect_quotation closures sugar _
  list closures first rest heq huntagged := by
    subst heq
    refine Value.inspect_cons closures fun sugar => ?_
    rw [← huntagged sugar, isTagged_sugar hnames h]
    rfl

end Object

end Lisplet
