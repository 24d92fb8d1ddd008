import Lisplet.Proofs.Library.Defining

namespace Lisplet.Library

/-! Loading the library makes every name stand for what the text says. -/

open Eval Evaluator

variable {state : State} {names : List Symbol}

variable [RegexEngine]

theorem resolves_initial (files : Files) :
    Resolves (State.initial files) .global initialNames := by
  intro name hname
  rcases List.mem_append.mp hname with hform | hprimitive
  · obtain ⟨form, _, rfl⟩ := List.mem_map.mp hform
    exact ⟨0, .special form, given?_special form 0, get?_initial_special files form⟩
  · obtain ⟨primitive, _, rfl⟩ := List.mem_map.mp hprimitive
    exact ⟨0, .primitive primitive, given?_primitive primitive 0,
      get?_initial_primitive files primitive⟩

theorem Resolves.define (h : Resolves state .global names) {key : Symbol} (hkey : key ∉ names)
    (value : Value) :
    Resolves { state with store := state.store.define key value } .global names := by
  intro name hname
  obtain ⟨id, bound, hgiven, hbound⟩ := h name hname
  have hother : name ≠ key := fun heq => hkey (heq ▸ hname)
  refine ⟨id, bound, hgiven, (Frame.get?_insert _ _ _ _).trans ?_⟩
  rw [if_neg hother]
  exact hbound

theorem Resolves.install (h : Resolves state .global names) {definition : Definition}
    (hmem : definition ∈ definitionsOf text.toList) (hnew : definition.name ∉ names) :
    Resolves (definition.install state) .global (definition.name :: names) := by
  intro name hname
  rcases List.mem_cons.mp hname with rfl | hold
  · refine ⟨state.names.next, definition.closure state.names.next, ?_, ?_⟩
    · rw [given?, definition?_of_mem hmem]
      rfl
    · exact Frame.get?_insert_self _ _ _
  · exact h.define hnew (definition.closure state.names.next) name hold

theorem Resolves.with_symbols {environment : Environment} (h : Resolves state environment names)
    (symbols : SymbolTable) : Resolves { state with symbols } environment names :=
  h

theorem offers_definitions (h : Resolves state .global (names ++ initialNames))
    {kind : ClosureKind} (hkind : definer kind ∈ names) :
    Offers state .global Definition.forms [definer kind] := by
  refine h.offers (fun name hname => ?_) fun name hname => ?_
  · obtain ⟨form, _, rfl⟩ := List.mem_map.mp hname
    exact List.mem_append_right _ (symbol_mem_initialNames form)
  · rw [List.mem_singleton.mp hname]
    exact List.mem_append_left _ hkind

theorem steady_evalAll (environment : Environment) (result : Value) (expressions : List Value) :
    Steady fun fuel => Closure.evalAll (evalAt fuel environment) result expressions :=
  fun _ _ hle => @Law.evalAll fuelLaw _ _ ((fuelLaw_respects hle).eval environment) result
    expressions

theorem eventually_forms {definitions : List Definition}
    (hmem : ∀ definition ∈ definitions, definition ∈ definitionsOf text.toList)
    (hready : ready names definitions = true)
    (hnodup : (definitions.map Definition.name ++ (names ++ initialNames)).Nodup)
    (hstate : Resolves state .global (names ++ initialNames)) (result : Value) :
    ∃ value after, Eventually (fun fuel =>
        Closure.evalAll (evalAt fuel .global) result (definitions.map Definition.form))
          state value after ∧
      Resolves after .global (definitions.map Definition.name ++ (names ++ initialNames)) := by
  induction definitions generalizing names state result with
  | nil => exact ⟨result, state, ⟨0, rfl⟩, hstate⟩
  | cons definition rest ih =>
      rw [ready, Bool.and_eq_true, decide_eq_true_eq] at hready
      have hhere := hmem definition List.mem_cons_self
      have hnodup' :
          (rest.map Definition.name ++ (definition.name :: names ++ initialNames)).Nodup :=
        List.perm_middle.nodup_iff.mpr hnodup
      have hnew : definition.name ∉ names ++ initialNames := fun hold =>
        (List.nodup_cons.mp hnodup).1 (List.mem_append_right _ hold)
      have hvalue := Definition.gives_form (Definition.sound_of_mem hhere)
        (offers_definitions hstate hready.1)
      have hlater := (hstate.of_preserves (fun _ hindex => absurd hindex List.not_mem_nil)
        (state.preserves_aside [definition.frame])).install hhere hnew
      obtain ⟨value, after, hrest, hafter⟩ := ih
        (fun other hother => hmem other (List.mem_cons_of_mem definition hother)) hready.2 hnodup'
        hlater (definition.closure state.names.next)
      refine ⟨value, after, ?_, fun name hname => hafter name (List.perm_middle.mem_iff.mpr hname)⟩
      refine (eventually_bind (steady_evalAt .global definition.form) fun value =>
        steady_evalAll .global value (rest.map Definition.form)).mpr ?_
      exact ⟨definition.closure state.names.next, _, hvalue, hrest⟩

def definedNames : List Symbol :=
  (definitionsOf text.toList).map Definition.name

theorem formsOf_text : formsOf text.toList = written (definitionsOf text.toList) := by
  have hsame := Value.eq_of_same_plain describes_text.plain describes_text.written
  rw [← Value.items_ofList (formsOf text.toList), hsame, Value.items_ofList, definitionsOf]

theorem definitionsOf_text_ne_nil : definitionsOf text.toList ≠ [] := by
  intro hnone
  have hsecond : second ∈ definitionsOf text.toList := mem_of_described (by simp [described])
  rw [hnone] at hsecond
  cases hsecond

theorem readAll_text :
    (Reader.readAll text.toList).outcome = .ok (written (definitionsOf text.toList)) := by
  have hforms := formsOf_text
  rw [formsOf] at hforms
  split at hforms
  · rename_i hread
    rw [hread, hforms]
  · cases hdefinitions : definitionsOf text.toList with
    | nil => exact absurd hdefinitions definitionsOf_text_ne_nil
    | cons first rest =>
        rw [hdefinitions] at hforms
        cases hforms

theorem eventually_written {definitions : List Definition}
    (hmem : ∀ definition ∈ definitions, definition ∈ definitionsOf text.toList)
    (hready : ready ((definitions.map Definition.name).take 1) definitions.tail = true)
    (hnodup : (definitions.map Definition.name ++ initialNames).Nodup)
    (hstate : Resolves state .global initialNames) :
    ∃ value after, Eventually (fun fuel =>
        Closure.evalAll (evalAt fuel .global) .nil (written definitions)) state value after ∧
      Resolves after .global (definitions.map Definition.name ++ initialNames) := by
  cases definitions with
  | nil => exact ⟨.nil, state, ⟨0, rfl⟩, hstate⟩
  | cons first rest =>
      have hhere := hmem first List.mem_cons_self
      have hoffers : Offers state .global Definition.forms [] :=
        hstate.offers (by decide) (List.nil_subset _)
      have hvalue := Definition.gives_expanded (Definition.sound_of_mem hhere) hoffers
      have hnodup' : (rest.map Definition.name ++ ([first.name] ++ initialNames)).Nodup :=
        List.perm_middle.nodup_iff.mpr hnodup
      obtain ⟨value, after, hrest, hafter⟩ := eventually_forms
        (fun other hother => hmem other (List.mem_cons_of_mem first hother)) hready hnodup'
        (hstate.install hhere fun hold => (List.nodup_cons.mp hnodup).1
          (List.mem_append_right _ hold)) (first.closure state.names.next)
      refine ⟨value, after, ?_, fun name hname => hafter name (List.perm_middle.mem_iff.mpr hname)⟩
      refine (eventually_bind (steady_evalAt .global first.expanded) fun value =>
        steady_evalAll .global value (rest.map Definition.form)).mpr ?_
      exact ⟨first.closure state.names.next, _, hvalue, hrest⟩

theorem loadText_eq_ok {inner : Evaluator} {source : String} {forms : List Value} {value : Value}
    {after : State} (hread : (Reader.readAll source.toList).outcome = .ok forms)
    (hrun : Closure.evalAll (inner.eval .global) .nil forms
      { state with symbols := state.symbols.internAll (Reader.readAll source.toList).met } =
        .ok value after) :
    loadText inner source state = .ok (.bool true) after := by
  refine bind_eq_ok_iff.mpr ⟨_, _, rfl, bind_eq_ok_iff.mpr ⟨forms, _, ?_, bind_ok hrun⟩⟩
  rw [hread]
  rfl

theorem loadFile_eq_ok {inner : Evaluator} {path source : String} {value : Value} {after : State}
    (hread : state.files.read path = .ok source)
    (hrun : loadText inner source { state with loads := path :: state.loads } =
      .ok value after) :
    loadFile inner path state = .ok value after := by
  refine bind_eq_ok_iff.mpr ⟨_, _, rfl, bind_eq_ok_iff.mpr ⟨_, _, rfl, ?_⟩⟩
  dsimp only
  rw [hread]
  exact hrun

theorem eventually_loadText (hstate : Resolves state .global initialNames) :
    ∃ after, Eventually (fun fuel => loadText (layers fuel) text) state (.bool true) after ∧
      Resolves after .global (definedNames ++ initialNames) := by
  obtain ⟨value, after, ⟨fuel, hrun⟩, hafter⟩ := eventually_written (fun _ hmem => hmem)
    describes_text.ready describes_text.nodup (hstate.with_symbols _)
  exact ⟨after, ⟨fuel, loadText_eq_ok readAll_text hrun⟩, hafter⟩

def libraryFiles : Files :=
  ⟨none, fun _ => .ok text⟩

/-- The state that loading the library leads to is one that an interpreter comes to. -/
theorem exists_reachable_resolves {names : List Symbol}
    (hnames : names ⊆ described.map Definition.name ++ initialNames) :
    ∃ seen state, Reachable seen state ∧ Resolves state .global names := by
  have hstarted : Resolves { State.initial libraryFiles with loads := [""] } .global initialNames :=
    resolves_initial libraryFiles
  obtain ⟨after, ⟨fuel, hrun⟩, hafter⟩ := eventually_loadText hstarted
  have hload : (Request.load "").run fuel (State.initial libraryFiles) = .ok (.bool true) after :=
    loadFile_eq_ok rfl hrun
  have hreachable := (Reachable.initial libraryFiles).request fuel
    (show (Request.load "").InSight [] from trivial)
  rw [Eval.final_ok hload] at hreachable
  refine ⟨_, after, hreachable, fun name hname => hafter name ?_⟩
  rcases List.mem_append.mp (hnames hname) with hdescribed | hinitial
  · obtain ⟨definition, hdefinition, rfl⟩ := List.mem_map.mp hdescribed
    exact List.mem_append_left _ (List.mem_map_of_mem (mem_of_described hdefinition))
  · exact List.mem_append_right _ hinitial

end Lisplet.Library
