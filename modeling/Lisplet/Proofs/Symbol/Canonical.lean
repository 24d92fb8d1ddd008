import Lisplet.Proofs.Reader.Interned
import Mathlib.Data.List.Dedup
import Mathlib.Data.List.ReduceOption

namespace Lisplet

/-! One table in use, over any time. Whoever has a symbol from it can compare symbols by identity in
place of their names. -/

/-- What was had from a table so far. -/
structure Issued where
  interner : Interner := .empty
  asked : List String := []
  handles : List Handle := []
  tables : List Names := []
  data : List Object := []

namespace Issued

inductive Action where
  | intern (name : String)
  | names
  | read (reader : Nat) (text : List Char)
  | require (reader : Nat) (text : List Char)

def dataOf : Except Error α → List α
  | .ok datum => [datum]
  | .error _ => []

def receive (issued : Issued) (interner : Interner) (met : List Symbol) (objects : List Object) :
    Issued :=
  { issued with
    interner
    asked := issued.asked ++ met.map Symbol.name
    handles := issued.handles ++ objects.flatMap Object.handles
    data := issued.data ++ objects }

structure Valid (issued : Issued) : Prop where
  interner_eq : issued.interner = Interner.empty.internAll issued.asked
  handles : ∀ handle ∈ issued.handles, ∃ name, issued.interner.name? handle = some name
  tables : ∀ names ∈ issued.tables, names.Known issued.interner
  data : ∀ object ∈ issued.data, ∀ handle ∈ object.handles, handle ∈ issued.handles

/-- More was had later, and what was had before is as it was. -/
structure Keeps (issued later : Issued) : Prop where
  named : ∀ handle ∈ issued.handles, handle ∈ later.handles ∧
    later.interner.name? handle = issued.interner.name? handle
  size : issued.interner.size ≤ later.interner.size

theorem Keeps.of_precedes {issued later : Issued} (hvalid : issued.Valid)
    (hhandles : issued.handles ⊆ later.handles)
    (hprecedes : issued.interner.Precedes later.interner) : issued.Keeps later := by
  refine ⟨fun handle hhandle => ⟨hhandles hhandle, ?_⟩, hprecedes.size_le⟩
  obtain ⟨name, hname⟩ := hvalid.handles handle hhandle
  rw [hname, hprecedes.name? hname]

theorem Keeps.trans {first second third : Issued} (hfirst : first.Keeps second)
    (hsecond : second.Keeps third) : first.Keeps third := by
  refine ⟨fun handle hhandle => ?_, Nat.le_trans hfirst.size hsecond.size⟩
  obtain ⟨hmiddle, hname⟩ := hfirst.named handle hhandle
  obtain ⟨hlast, hlater⟩ := hsecond.named handle hmiddle
  exact ⟨hlast, hlater.trans hname⟩

theorem Valid.extend {issued : Issued} (h : issued.Valid) {interner : Interner}
    {asked : List String} {handles : List Handle} {tables : List Names} {data : List Object}
    (hinterner : interner = issued.interner.internAll asked)
    (hhandles : ∀ handle ∈ handles, ∃ name, interner.name? handle = some name)
    (htables : ∀ names ∈ tables, names.Known interner)
    (hdata : ∀ object ∈ data, ∀ handle ∈ object.handles, handle ∈ handles) :
    let later : Issued :=
      ⟨interner, issued.asked ++ asked, issued.handles ++ handles, issued.tables ++ tables,
        issued.data ++ data⟩
    later.Valid ∧ issued.Keeps later := by
  have hprecedes : issued.interner.Precedes interner := by
    rw [hinterner]
    exact Interner.precedes_internAll _ _
  refine ⟨⟨?_, ?_, ?_, ?_⟩, .of_precedes h (List.subset_append_left _ _) hprecedes⟩
  · rw [Interner.internAll_append, ← h.interner_eq]
    exact hinterner
  · intro handle hhandle
    rcases List.mem_append.mp hhandle with hold | hnew
    · exact (h.handles handle hold).imp fun _ hname => hprecedes.name? hname
    · exact hhandles handle hnew
  · intro names hnames
    rcases List.mem_append.mp hnames with hold | hnew
    · exact (h.tables names hold).mono hprecedes
    · exact htables names hnew
  · intro object hobject handle hhandle
    rcases List.mem_append.mp hobject with hold | hnew
    · exact List.mem_append_left _ (h.data object hold handle hhandle)
    · exact List.mem_append_right _ (hdata object hnew handle hhandle)

theorem eq_ok_of_mem_dataOf {outcome : Except Error α} {datum : α} (h : datum ∈ dataOf outcome) :
    outcome = .ok datum := by
  cases outcome with
  | ok other => rw [List.mem_singleton.mp h]
  | error error => cases h

theorem Valid.receive {issued : Issued} (h : issued.Valid) {interner : Interner}
    {met : List Symbol} {objects : List Object}
    (hinterner : interner = issued.interner.internAll (met.map Symbol.name))
    (hobjects : ∀ object ∈ objects, object.Known interner) :
    (issued.receive interner met objects).Valid ∧
      issued.Keeps (issued.receive interner met objects) := by
  have hextended := @Valid.extend issued h interner (met.map Symbol.name)
    (objects.flatMap Object.handles) [] objects hinterner ?_ ?_ ?_
  · rw [List.append_nil] at hextended
    exact hextended
  · intro handle hhandle
    obtain ⟨object, hobject, hmem⟩ := List.mem_flatMap.mp hhandle
    exact hobjects object hobject handle hmem
  · exact List.forall_mem_nil _
  · exact fun object hobject handle hhandle => List.mem_flatMap.mpr ⟨object, hobject, hhandle⟩

theorem valid_initial : Valid {} where
  interner_eq := rfl
  handles := List.forall_mem_nil _
  tables := List.forall_mem_nil _
  data := List.forall_mem_nil _

variable [RegexEngine]

/-- A reading that fails gives no datum, though what it met is interned. -/
def perform (issued : Issued) : Action → Issued
  | .intern name =>
      let (handle, interner) := Interner.intern name issued.interner
      { issued with
        interner
        asked := issued.asked ++ [name]
        handles := issued.handles ++ [handle] }
  | .names =>
      let (names, interner) := Names.make issued.interner
      { issued with
        interner
        asked := issued.asked ++ Names.reserved
        handles := issued.handles ++ names.handles
        tables := issued.tables ++ [names] }
  | .read reader text =>
      match issued.tables[reader]? with
      | none => issued
      | some names =>
          let (reading, interner) := Reader.Interning.read names text issued.interner
          issued.receive interner reading.met (dataOf reading.outcome).reduceOption
  | .require reader text =>
      match issued.tables[reader]? with
      | none => issued
      | some names =>
          let (reading, interner) := Reader.Interning.require names text issued.interner
          issued.receive interner reading.met (dataOf reading.outcome)

def after (actions : List Action) : Issued :=
  actions.foldl perform {}

theorem Valid.perform {issued : Issued} (h : issued.Valid) (action : Action) :
    (issued.perform action).Valid ∧ issued.Keeps (issued.perform action) := by
  have hsame : issued.Valid ∧ issued.Keeps issued :=
    ⟨h, .of_precedes h (List.Subset.refl _) (.refl _)⟩
  cases action with
  | intern name =>
      have hextended := @Valid.extend issued h (Interner.intern name issued.interner).2 [name]
        [(Interner.intern name issued.interner).1] [] [] rfl ?_ ?_ ?_
      · rw [List.append_nil, List.append_nil] at hextended
        exact hextended
      · intro handle hhandle
        rw [List.mem_singleton.mp hhandle]
        exact ⟨name, Interner.name?_intern name issued.interner⟩
      · exact List.forall_mem_nil _
      · exact List.forall_mem_nil _
  | names =>
      obtain ⟨hasked, hknown⟩ := Names.issues_make issued.interner
      rw [Issued.perform]
      generalize Names.make issued.interner = made at hasked hknown
      obtain ⟨names, interner⟩ := made
      have hmade := hknown interner (.refl interner)
      have hextended := @Valid.extend issued h interner Names.reserved names.handles [names] []
        hasked hmade.handles ?_ ?_
      · rw [List.append_nil] at hextended
        exact hextended
      · intro other hother
        rw [List.mem_singleton.mp hother]
        exact hmade
      · exact List.forall_mem_nil _
  | read reader text =>
      rw [Issued.perform]
      split
      · exact hsame
      · rename_i names hnames
        have hknown := h.tables names (List.mem_of_getElem? hnames)
        obtain ⟨hread, hinterner⟩ := Reader.Interning.read_alike hknown text
        rw [← hread.met_eq] at hinterner
        refine h.receive hinterner fun object hobject => ?_
        obtain ⟨value, _, hmeans⟩ := hread.exists_of_ok
          (eq_ok_of_mem_dataOf (List.reduceOption_mem_iff.mp hobject))
        cases hmeans with
        | some hmeans => exact hmeans.known
  | require reader text =>
      rw [Issued.perform]
      split
      · exact hsame
      · rename_i names hnames
        have hknown := h.tables names (List.mem_of_getElem? hnames)
        obtain ⟨hread, hinterner⟩ := Reader.Interning.require_alike hknown text
        rw [← hread.met_eq] at hinterner
        refine h.receive hinterner fun object hobject => ?_
        obtain ⟨value, _, hmeans⟩ := hread.exists_of_ok (eq_ok_of_mem_dataOf hobject)
        exact hmeans.known

theorem Valid.performs {issued : Issued} (h : issued.Valid) (actions : List Action) :
    (actions.foldl Issued.perform issued).Valid ∧
      issued.Keeps (actions.foldl Issued.perform issued) := by
  induction actions generalizing issued with
  | nil => exact ⟨h, .of_precedes h (List.Subset.refl _) (.refl _)⟩
  | cons action rest ih =>
      obtain ⟨hstep, hkeeps⟩ := h.perform action
      obtain ⟨hvalid, hlater⟩ := ih hstep
      exact ⟨hvalid, hkeeps.trans hlater⟩

theorem valid_after (actions : List Action) : (after actions).Valid :=
  (valid_initial.performs actions).1

structure Canonical (issued : Issued) : Prop where
  eq_iff : ∀ handle ∈ issued.handles, ∀ other ∈ issued.handles,
    handle = other ↔ issued.interner.symbol handle = issued.interner.symbol other
  named : ∀ handle ∈ issued.handles, ∃ name ∈ issued.asked,
    issued.interner.name? handle = some name
  /-- What is handed out for a name is its handle, which is the old one if there is one. -/
  interned : ∀ name,
    let (handle, later) := Interner.intern name issued.interner
    later.name? handle = some name ∧ ∀ other, issued.interner.name? other = some name →
      handle = other ∧ later = issued.interner
  size : issued.interner.size = issued.asked.dedup.length
  /-- A table that tells symbols apart by name alone comes to the same size. -/
  counted : issued.interner.size =
    (SymbolTable.empty.internAll (issued.asked.map Symbol.mk)).size
  specialForm : ∀ names ∈ issued.tables, ∀ handle ∈ issued.handles, ∀ form,
    names.specialForm? handle = some form ↔ issued.interner.name? handle = some form.name
  reads : ∀ names ∈ issued.tables, ∀ text,
    let (reading, later) := Reader.Interning.read names text issued.interner
    Reader.Interning.Alike (Option.Rel (Object.Means later)) reading (Reader.read text)
  data : ∀ object ∈ issued.data, ∀ handle ∈ object.handles, handle ∈ issued.handles
  recognized : ∀ names ∈ issued.tables, ∀ object : Object,
    (∀ handle ∈ object.handles, handle ∈ issued.handles) →
      Object.Recognized issued.interner names object

theorem Valid.canonical {issued : Issued} (h : issued.Valid) : Canonical issued := by
  have hmem : ∀ name, name ∈ issued.interner.names ↔ name ∈ issued.asked := by
    intro name
    rw [h.interner_eq, Interner.mem_internAll]
    exact or_iff_left List.not_mem_nil
  refine ⟨?_, ?_, ?_, ?_, ?_, ?_, ?_, h.data, ?_⟩
  · intro handle hhandle other hother
    obtain ⟨name, hname⟩ := h.handles handle hhandle
    obtain ⟨name', hname'⟩ := h.handles other hother
    rw [Interner.symbol_eq hname, Interner.symbol_eq hname']
    refine ⟨?_, fun heq => ?_⟩
    · rintro rfl
      exact congrArg Symbol.mk (Option.some.inj (hname.symm.trans hname'))
    · cases heq
      exact Interner.eq_of_name? hname hname'
  · intro handle hhandle
    obtain ⟨name, hname⟩ := h.handles handle hhandle
    exact ⟨name, (hmem name).mp (Interner.mem_names_of_name? hname), hname⟩
  · intro name
    refine ⟨Interner.name?_intern name issued.interner, fun other hother => ?_⟩
    have hintern := Interner.intern_of_name? hother
    exact ⟨congrArg Prod.fst hintern, congrArg Prod.snd hintern⟩
  · refine List.Perm.length_eq ?_
    refine (List.perm_ext_iff_of_nodup issued.interner.nodup (List.nodup_dedup _)).mpr ?_
    exact fun name => (hmem name).trans List.mem_dedup.symm
  · have hnodup : (issued.interner.names.map Symbol.mk).Nodup :=
      issued.interner.nodup.map fun _ _ => congrArg Symbol.name
    have hperm : (issued.interner.names.map Symbol.mk).Perm
        (SymbolTable.empty.internAll (issued.asked.map Symbol.mk)).symbols := by
      refine (List.perm_ext_iff_of_nodup hnodup (SymbolTable.nodup _)).mpr fun symbol => ?_
      rw [SymbolTable.mem_internAll]
      simp only [List.mem_map, hmem, SymbolTable.empty, List.not_mem_nil, or_false]
    rw [SymbolTable.size, ← hperm.length_eq, List.length_map]
    rfl
  · intro names hnames handle hhandle form
    obtain ⟨name, hname⟩ := h.handles handle hhandle
    rw [(h.tables names hnames).specialForm?_eq hname, hname, Option.some.injEq]
    refine ⟨fun hform => ?_, ?_⟩
    · exact (congrArg Symbol.name (SpecialForm.symbol_of_ofSymbol? hform)).symm
    · rintro rfl
      exact SpecialForm.ofSymbol?_symbol form
  · exact fun names hnames text => (Reader.Interning.read_alike (h.tables names hnames) text).1
  · intro names hnames object hobject
    refine Object.recognized (h.tables names hnames) fun handle hhandle => ?_
    exact h.handles handle (hobject handle hhandle)

/-- Symbols that were had from one table at any time are the same exactly if their names are. -/
theorem canonical_after (actions later : List Action) :
    Canonical (after actions) ∧ Keeps (after actions) (after (actions ++ later)) := by
  refine ⟨(valid_after actions).canonical, ?_⟩
  rw [after, after, List.foldl_append]
  exact ((valid_after actions).performs later).2

end Issued

end Lisplet
