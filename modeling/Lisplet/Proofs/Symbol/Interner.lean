import Lisplet.Symbol.Interner
import Mathlib.Data.List.Find

namespace Lisplet

/-! A table only gets longer, so a handle has its name in every later table; and since no name
stands twice, the handle is found again by the name. -/

namespace Interner

variable {interner later : Interner} {handle other : Handle} {name : String}

def Precedes (interner later : Interner) : Prop :=
  interner.names <+: later.names

namespace Precedes

theorem refl (interner : Interner) : interner.Precedes interner :=
  List.prefix_refl _

theorem trans {first second third : Interner} (hfirst : first.Precedes second)
    (hsecond : second.Precedes third) : first.Precedes third :=
  List.IsPrefix.trans hfirst hsecond

theorem name? (h : interner.Precedes later) (hname : interner.name? handle = some name) :
    later.name? handle = some name := by
  obtain ⟨hplace, rfl⟩ := List.getElem?_eq_some_iff.mp hname
  exact List.prefix_iff_getElem?.mp h handle.place hplace

theorem size_le (h : interner.Precedes later) : interner.size ≤ later.size :=
  List.IsPrefix.length_le h

end Precedes

theorem eq_of_name? (h : interner.name? handle = some name)
    (hother : interner.name? other = some name) : handle = other := by
  obtain ⟨hplace, hname⟩ := List.getElem?_eq_some_iff.mp h
  obtain ⟨hplace', hname'⟩ := List.getElem?_eq_some_iff.mp hother
  have hsame := (List.getElem_inj interner.nodup).mp (hname.trans hname'.symm)
  cases handle
  cases other
  exact congrArg Handle.mk hsame

theorem symbol_eq (h : interner.name? handle = some name) : interner.symbol handle = ⟨name⟩ := by
  rw [symbol, h]
  rfl

theorem mem_names_of_name? (h : interner.name? handle = some name) : name ∈ interner.names :=
  List.mem_of_getElem? h

theorem intern_of_mem (h : name ∈ interner.names) :
    intern name interner = (⟨interner.names.idxOf name⟩, interner) := by
  simp only [intern, h, dif_pos]

theorem intern_of_not_mem (h : name ∉ interner.names) :
    intern name interner = (⟨interner.size⟩, interner.add name h) := by
  simp only [intern, h, not_false_eq_true, dif_neg]

theorem precedes_intern (name : String) (interner : Interner) :
    interner.Precedes (intern name interner).2 := by
  by_cases h : name ∈ interner.names
  · rw [intern_of_mem h]
    exact .refl interner
  · rw [intern_of_not_mem h]
    exact List.prefix_append _ _

theorem name?_intern (name : String) (interner : Interner) :
    (intern name interner).2.name? (intern name interner).1 = some name := by
  by_cases h : name ∈ interner.names
  · rw [intern_of_mem h, name?, List.getElem?_eq_getElem (List.idxOf_lt_length_iff.mpr h),
      List.getElem_idxOf]
  · rw [intern_of_not_mem h]
    exact List.getElem?_concat_length

/-- A name is found where it was put first, in any later table. -/
theorem intern_of_name? (h : interner.name? handle = some name) :
    intern name interner = (handle, interner) := by
  have hintern := intern_of_mem (mem_names_of_name? h)
  have hfound := name?_intern name interner
  rw [hintern] at hfound
  exact hintern.trans (congrArg (·, interner) (eq_of_name? hfound h))

theorem mem_intern {asked : String} :
    name ∈ (intern asked interner).2.names ↔ name = asked ∨ name ∈ interner.names := by
  by_cases h : asked ∈ interner.names
  · rw [intern_of_mem h]
    exact (or_iff_right_of_imp fun heq => heq ▸ h).symm
  · rw [intern_of_not_mem h, or_comm, ← List.mem_singleton, ← List.mem_append]
    rfl

theorem internAll_append (interner : Interner) (front back : List String) :
    interner.internAll (front ++ back) = (interner.internAll front).internAll back :=
  List.foldl_append

theorem precedes_internAll (interner : Interner) (asked : List String) :
    interner.Precedes (interner.internAll asked) := by
  induction asked generalizing interner with
  | nil => exact .refl interner
  | cons name rest ih => exact (precedes_intern name interner).trans (ih _)

theorem mem_internAll {asked : List String} :
    name ∈ (interner.internAll asked).names ↔ name ∈ asked ∨ name ∈ interner.names := by
  induction asked generalizing interner with
  | nil => exact (or_iff_right List.not_mem_nil).symm
  | cons first rest ih =>
      refine ih.trans ?_
      rw [mem_intern, List.mem_cons, or_left_comm, or_assoc]

/-- The computation interns the names in this order, and what holds of its result goes on holding
in every later table. -/
def Issues (asked : List String) (computation : StateM Interner α)
    (Holds : Interner → α → Prop) : Prop :=
  ∀ interner, (computation interner).2 = interner.internAll asked ∧
    ∀ later, (computation interner).2.Precedes later → Holds later (computation interner).1

namespace Issues

variable {asked more : List String} {Holds : Interner → α → Prop}

theorem nil {value : α} (h : ∀ later, Holds later value) : Issues [] (pure value) Holds :=
  fun _ => ⟨rfl, fun later _ => h later⟩

theorem intern (name : String) :
    Issues [name] (Interner.intern name) fun later handle => later.name? handle = some name :=
  fun interner => ⟨rfl, fun _ hlater => hlater.name? (name?_intern name interner)⟩

theorem bind {first : StateM Interner α} {next : α → StateM Interner β}
    {Goal : α → Interner → β → Prop} (hfirst : Issues asked first Holds)
    (hnext : ∀ value, Issues more (next value) (Goal value)) :
    Issues (asked ++ more) (first >>= next) fun later result =>
      ∃ value, Holds later value ∧ Goal value later result := by
  intro interner
  obtain ⟨hasked, hholds⟩ := hfirst interner
  obtain ⟨hmore, hgoal⟩ := hnext (first interner).1 (first interner).2
  refine ⟨?_, fun later hlater => ⟨(first interner).1, hholds later ?_, hgoal later hlater⟩⟩
  · rw [internAll_append, ← hasked]
    exact hmore
  · refine Precedes.trans ?_ hlater
    change (first interner).2.Precedes (next (first interner).1 (first interner).2).2
    rw [hmore]
    exact precedes_internAll _ _

theorem map {first : StateM Interner α} (hfirst : Issues asked first Holds) (f : α → β) :
    Issues asked (first >>= fun value => pure (f value)) fun later result =>
      ∃ value, Holds later value ∧ result = f value :=
  fun interner => ⟨(hfirst interner).1, fun later hlater =>
    ⟨(first interner).1, (hfirst interner).2 later hlater, rfl⟩⟩

theorem mono {Goal : Interner → α → Prop} {computation : StateM Interner α}
    (h : Issues asked computation Holds)
    (himp : ∀ later value, Holds later value → Goal later value) :
    Issues asked computation Goal :=
  fun interner => ⟨(h interner).1, fun later hlater => himp _ _ ((h interner).2 later hlater)⟩

end Issues

end Interner

namespace Names

structure Known (names : Names) (interner : Interner) : Prop where
  forms : names.specials.map Prod.snd = SpecialForm.all
  special : ∀ special ∈ names.specials, interner.name? special.1 = some special.2.name
  sugar : ∀ sugar, interner.name? (names.sugar sugar) = some sugar.name
  ampersand : interner.name? names.ampersand = some Symbol.ampersand.name
  underscore : interner.name? names.underscore = some Symbol.underscore.name

variable {names : Names} {interner later : Interner} {handle : Handle} {name : String}

theorem Known.mono (h : names.Known interner) (hlater : interner.Precedes later) :
    names.Known later where
  forms := h.forms
  special special hspecial := hlater.name? (h.special special hspecial)
  sugar sugar := hlater.name? (h.sugar sugar)
  ampersand := hlater.name? h.ampersand
  underscore := hlater.name? h.underscore

theorem issues_internForms (forms : List SpecialForm) :
    Interner.Issues (forms.map SpecialForm.name) (internForms forms) fun later specials =>
      specials.map Prod.snd = forms ∧
        ∀ special ∈ specials, later.name? special.1 = some special.2.name := by
  induction forms with
  | nil => exact .nil fun _ => ⟨rfl, List.forall_mem_nil _⟩
  | cons form rest ih =>
      refine ((Interner.Issues.intern form.name).bind fun handle =>
        ih.map ((handle, form) :: ·)).mono ?_
      rintro later _ ⟨handle, hhandle, specials, ⟨hforms, hspecials⟩, rfl⟩
      refine ⟨congrArg (form :: ·) hforms, fun special hspecial => ?_⟩
      rcases List.mem_cons.mp hspecial with rfl | hrest
      · exact hhandle
      · exact hspecials special hrest

theorem issues_make :
    Interner.Issues reserved make fun later names => names.Known later := by
  have hintern := Interner.Issues.intern
  refine ((issues_internForms SpecialForm.all).bind fun specials =>
    (hintern Sugar.quote.name).bind fun quote =>
    (hintern Sugar.quasiquote.name).bind fun quasiquote =>
    (hintern Sugar.unquote.name).bind fun unquote =>
    (hintern Sugar.splice.name).bind fun splice =>
    (hintern Symbol.ampersand.name).bind fun ampersand =>
    (hintern Symbol.underscore.name).map fun underscore =>
      Names.mk specials quote quasiquote unquote splice ampersand underscore).mono ?_
  rintro later _ ⟨specials, ⟨hforms, hspecials⟩, quote, hquote, quasiquote, hquasiquote, unquote,
    hunquote, splice, hsplice, ampersand, hampersand, underscore, hunderscore, rfl⟩
  refine ⟨hforms, hspecials, fun sugar => ?_, hampersand, hunderscore⟩
  cases sugar with
  | quote => exact hquote
  | quasiquote => exact hquasiquote
  | unquote => exact hunquote
  | splice => exact hsplice

/-- A symbol is one of the names by identity exactly if it is so by name. -/
theorem Known.sugar_eq_iff (h : names.Known interner) (hname : interner.name? handle = some name)
    (sugar : Sugar) : handle = names.sugar sugar ↔ name = sugar.name := by
  constructor
  · rintro rfl
    exact Option.some.inj (hname.symm.trans (h.sugar sugar))
  · rintro rfl
    exact Interner.eq_of_name? hname (h.sugar sugar)

theorem Known.specialForm?_eq (h : names.Known interner)
    (hname : interner.name? handle = some name) :
    names.specialForm? handle = SpecialForm.ofSymbol? ⟨name⟩ := by
  have hsame : ∀ special ∈ names.specials,
      decide (special.1 = handle) = decide (special.2.symbol = ⟨name⟩) := by
    intro special hspecial
    have hnamed := h.special special hspecial
    refine decide_eq_decide.mpr ⟨?_, ?_⟩
    · rintro rfl
      exact congrArg Symbol.mk (Option.some.inj (hnamed.symm.trans hname))
    · intro heq
      obtain rfl : special.2.name = name := congrArg Symbol.name heq
      exact Interner.eq_of_name? hnamed hname
  rw [specialForm?, List.find?_congr hsame, SpecialForm.ofSymbol?, ← h.forms, List.find?_map]
  rfl

theorem Known.handles (h : names.Known interner) :
    ∀ handle ∈ names.handles, ∃ name, interner.name? handle = some name := by
  intro handle hhandle
  rcases List.mem_append.mp hhandle with hmapped | hother
  · obtain ⟨special, hspecial, rfl⟩ := List.mem_map.mp hmapped
    exact ⟨_, h.special special hspecial⟩
  · simp only [List.mem_cons, List.not_mem_nil, or_false] at hother
    rcases hother with rfl | rfl | rfl | rfl | rfl | rfl
    · exact ⟨_, h.sugar .quote⟩
    · exact ⟨_, h.sugar .quasiquote⟩
    · exact ⟨_, h.sugar .unquote⟩
    · exact ⟨_, h.sugar .splice⟩
    · exact ⟨_, h.ampersand⟩
    · exact ⟨_, h.underscore⟩

end Names

end Lisplet
