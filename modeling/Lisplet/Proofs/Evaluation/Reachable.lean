import Lisplet.Proofs.Evaluation.Provenance
import Lisplet.TopLevel

namespace Lisplet

/-! The states that an interpreter comes to, one request after the other. Along with the state goes
what has come into sight so far: the closures in the results and in the states in between. -/

def State.closures (state : State) : List Closure :=
  state.values.flatMap Value.closures

/-- The global environment, the scope of a closure in sight, or an environment further out. -/
def Environment.InSight (seen : List Closure) (environment : Environment) : Prop :=
  environment = .global ∨ ∃ closure ∈ seen, environment.locals <:+ closure.scope.locals

def Value.InSight (seen : List Closure) (value : Value) : Prop :=
  ∀ closure ∈ value.closures, closure ∈ seen

def Request.InSight (seen : List Closure) : Request → Prop
  | eval environment datum => environment.InSight seen ∧ datum.InSight seen
  | apply callable arguments =>
      callable.InSight seen ∧ ∀ argument ∈ arguments, argument.InSight seen
  | expand form => form.InSight seen
  | load _ => True

namespace Reachable

variable {seen : List Closure} {state : State}

theorem contains_special_initial (files : Files) (form : SpecialForm) :
    (State.initial files).store.globals.contains form.symbol = true := by
  have hform : form ∈ SpecialForm.all := by cases form <;> decide
  have hpair : (form.symbol, Value.special form) ∈
      SpecialForm.all.map (fun form => (form.symbol, Value.special form)) ++
        Primitive.all.map (fun primitive => (primitive.symbol, Value.primitive primitive)) :=
    List.mem_append_left _ (List.mem_map.mpr ⟨form, hform, rfl⟩)
  simp only [State.initial]
  exact Frame.contains_ofPairs hpair

theorem inSight_of_isWritten {value : Value} (h : value.isWritten = true) :
    value.InSight seen := by
  rw [Value.InSight, Value.closures_eq_nil_of_isWritten h]
  simp

/-! Histories that are in keeping with what is in sight. -/

theorem links_of_inSight {history : History} (hseen : ∀ closure ∈ seen, history.Holds closure)
    {environment : Environment} (h : environment.InSight seen) :
    history.Links environment.locals := by
  rcases h with rfl | ⟨closure, hclosure, houter⟩
  · trivial
  · exact (hseen closure hclosure).2.of_suffix houter

theorem uses_of_inSight {history : History} (hseen : ∀ closure ∈ seen, history.Holds closure)
    {request : Request} (h : request.InSight seen) : request.Uses history := by
  have hknows : ∀ value : Value, value.InSight seen → history.Knows value :=
    fun value hvalue closure hclosure => hseen closure (hvalue closure hclosure)
  cases request with
  | eval environment datum => exact ⟨links_of_inSight hseen h.1, hknows datum h.2⟩
  | apply callable arguments =>
      refine ⟨hknows callable h.1, fun argument hargument => ?_⟩
      exact hknows argument (h.2 argument hargument)
  | expand form => exact hknows form h
  | load path => trivial

theorem holds_of_mem_closures {history : History} (h : state.Follows history) :
    ∀ closure ∈ state.closures, history.Holds closure := by
  intro closure hclosure
  obtain ⟨value, hvalue, hmem⟩ := List.mem_flatMap.mp hclosure
  exact h.values value hvalue closure hmem

theorem initial_follows (files : Files) : (State.initial files).Follows ⟨[], []⟩ := by
  refine ⟨rfl, rfl, fun value hvalue => History.knows_of_closures_eq_nil ?_⟩
  have hglobal : value ∈ (State.initial files).store.globals.values := by
    simpa [State.values, State.initial, Store.values] using hvalue
  obtain ⟨binding, hbinding, rfl⟩ := List.mem_map.mp hglobal
  rcases List.mem_append.mp (Frame.mem_ofPairs hbinding) with hform | hprimitive
  · obtain ⟨form, _, rfl⟩ := List.mem_map.mp hform
    rfl
  · obtain ⟨primitive, _, rfl⟩ := List.mem_map.mp hprimitive
    rfl

end Reachable

variable [RegexEngine]

/-- What comes into sight with the outcome of a request. -/
def Request.revealed (fuel : Nat) (request : Request) (state : State) : List Closure :=
  match request.run fuel state with
  | .ok value after => value.closures ++ after.closures
  | .error halt after => halt.values.flatMap Value.closures ++ after.closures

def Outcome.closures : Outcome → List Closure
  | .value result => result.closures
  | .failed error _ => error.values.flatMap Value.closures
  | _ => []

inductive Reachable : List Closure → State → Prop
  | initial (files : Files) : Reachable [] (State.initial files)
  | request {seen : List Closure} {state : State} {request : Request} (fuel : Nat) :
      Reachable seen state → request.InSight seen →
        Reachable (request.revealed fuel state ++ seen) (Eval.final (request.run fuel) state)
  | define {seen : List Closure} {state : State} {value : Value} (key : Symbol) :
      Reachable seen state → value.InSight seen →
        Reachable seen { state with store := state.store.define key value }
  | clearStack {seen : List Closure} {state : State} :
      Reachable seen state → Reachable seen state.clearStack
  /-- Between requests symbols are interned, output is taken away and files change. -/
  | surroundings {seen : List Closure} {state : State} (symbols : SymbolTable) (output : String)
      (files : Files) (loads : List String) :
      Reachable seen state → Reachable seen { state with symbols, output, files, loads }

namespace Reachable

variable {seen : List Closure} {state : State}

/-- The names of the special forms stay bound, though not to what they name. -/
theorem contains_special (h : Reachable seen state) (form : SpecialForm) :
    state.store.globals.contains form.symbol = true := by
  induction h with
  | initial files => exact contains_special_initial files form
  | request fuel _ _ ih => exact (Eval.run_grows fuel _ _).globals ih
  | define key _ _ ih => exact (Store.GrowsInto.define _ key _).globals ih
  | clearStack _ ih => exact ih
  | surroundings _ _ _ _ _ ih => exact ih

theorem request_continues {history : History} (hstate : state.Follows history)
    (hseen : ∀ closure ∈ seen, history.Holds closure) {request : Request}
    (hrequest : request.InSight seen) (fuel : Nat) :
    ∃ later : History, history.Precedes later ∧
      (Eval.final (request.run fuel) state).Follows later ∧
        ∀ closure ∈ request.revealed fuel state ++ seen, later.Holds closure := by
  obtain ⟨later, hlater, hafter, hknows⟩ :=
    Request.continues_run (uses_of_inSight hseen hrequest) fuel state hstate
  refine ⟨later, hlater, hafter, fun closure hclosure => ?_⟩
  rcases List.mem_append.mp hclosure with hnew | hold
  · rw [Request.revealed] at hnew
    cases hrun : request.run fuel state with
    | ok value after =>
        rw [Eval.final_ok hrun] at hafter
        rw [hrun] at hnew hknows
        rcases List.mem_append.mp hnew with hvalue | hstate
        · exact hknows closure hvalue
        · exact holds_of_mem_closures hafter closure hstate
    | error halt after =>
        rw [Eval.final_error hrun] at hafter
        rw [hrun] at hnew hknows
        rcases List.mem_append.mp hnew with hfailure | hstate
        · obtain ⟨value, hvalue, hmem⟩ := List.mem_flatMap.mp hfailure
          exact hknows value hvalue closure hmem
        · exact holds_of_mem_closures hafter closure hstate
  · exact (hseen closure hold).mono hlater

theorem follows (h : Reachable seen state) :
    ∃ history : History, state.Follows history ∧ ∀ closure ∈ seen, history.Holds closure := by
  induction h with
  | initial files => exact ⟨⟨[], []⟩, initial_follows files, by simp⟩
  | request fuel _ hrequest ih =>
      obtain ⟨history, hstate, hseen⟩ := ih
      obtain ⟨later, _, hafter, hlater⟩ := request_continues hstate hseen hrequest fuel
      exact ⟨later, hafter, hlater⟩
  | define key _ hvalue ih =>
      obtain ⟨history, hstate, hseen⟩ := ih
      have hknows : history.Knows _ := fun closure hclosure =>
        hseen closure (hvalue closure hclosure)
      exact ⟨history, ⟨hstate.frames, hstate.closures,
        Eval.Continues.knowsAll_bind hstate hknows⟩, hseen⟩
  | clearStack _ ih =>
      obtain ⟨history, hstate, hseen⟩ := ih
      have hstore := (History.knowsAll_append.mp hstate.values).1
      exact ⟨history, ⟨hstate.frames, hstate.closures,
        History.knowsAll_append.mpr ⟨hstore, History.knowsAll_nil⟩⟩, hseen⟩
  | surroundings _ _ _ _ _ ih =>
      obtain ⟨history, hstate, hseen⟩ := ih
      exact ⟨history, ⟨hstate.frames, hstate.closures, hstate.values⟩, hseen⟩

theorem mem_seen (h : Reachable seen state) : ∀ closure ∈ state.closures, closure ∈ seen := by
  induction h with
  | initial files =>
      intro closure hclosure
      have hnone := holds_of_mem_closures (initial_follows files) closure hclosure
      cases hnone.1
  | request fuel _ _ _ =>
      intro closure hclosure
      refine List.mem_append_left _ ?_
      rw [Request.revealed]
      rw [Eval.final] at hclosure
      split
      · rename_i hrun
        rw [hrun] at hclosure
        exact List.mem_append_right _ hclosure
      · rename_i hrun
        rw [hrun] at hclosure
        exact List.mem_append_right _ hclosure
  | define key _ hvalue ih =>
      intro closure hclosure
      obtain ⟨other, hother, hmem⟩ := List.mem_flatMap.mp hclosure
      rcases List.mem_append.mp hother with hbound | hstack
      · rcases Store.mem_values_bind hbound with rfl | hold
        · exact hvalue closure hmem
        · exact ih closure (List.mem_flatMap.mpr ⟨other, List.mem_append_left _ hold, hmem⟩)
      · exact ih closure (List.mem_flatMap.mpr ⟨other, List.mem_append_right _ hstack, hmem⟩)
  | clearStack _ ih =>
      intro closure hclosure
      obtain ⟨other, hother, hmem⟩ := List.mem_flatMap.mp hclosure
      rw [State.values, State.clearStack, List.append_nil] at hother
      exact ih closure (List.mem_flatMap.mpr ⟨other, List.mem_append_left _ hother, hmem⟩)
  | surroundings _ _ _ _ _ ih => exact ih

/-! The loop at the top level goes from reachable states to reachable states. -/

theorem evaluate (h : Reachable seen state) {datum : Value} (hdatum : datum.isWritten = true) :
    ∃ later, seen ⊆ later ∧ (TopLevel.evaluate datum state).1.closures ⊆ later ∧
      Reachable later (TopLevel.evaluate datum state).2 := by
  have hrequest : (Request.eval .global datum).InSight seen :=
    ⟨.inl rfl, inSight_of_isWritten hdatum⟩
  have hafter := h.request Session.fuel hrequest
  rw [TopLevel.evaluate]
  split
  all_goals
    rename_i hrun
    change (Request.eval .global datum).run Session.fuel state = _ at hrun
    rw [Request.revealed, Eval.final, hrun] at hafter
  · refine ⟨_, List.subset_append_right _ _, ?_, hafter.define .underscore ?_⟩
    all_goals exact fun closure hclosure =>
      List.mem_append_left _ (List.mem_append_left _ hclosure)
  · exact ⟨_, List.subset_append_right _ _, List.nil_subset _, hafter.clearStack⟩
  · refine ⟨_, List.subset_append_right _ _, ?_, hafter.clearStack⟩
    exact fun closure hclosure => List.mem_append_left _ (List.mem_append_left _ hclosure)
  · exact ⟨_, List.subset_append_right _ _, List.nil_subset _, hafter.clearStack⟩

theorem step (h : Reachable seen state) (reader : Reader) :
    ∃ later, seen ⊆ later ∧ (TopLevel.step state reader).1.closures ⊆ later ∧
      Reachable later (TopLevel.step state reader).2.1 := by
  have hinterned : ∀ symbols, Reachable seen { state with symbols } := fun symbols =>
    h.surroundings symbols state.output state.files state.loads
  simp only [TopLevel.step]
  split
  · exact ⟨seen, List.Subset.refl _, List.nil_subset _, h⟩
  · split
    · rename_i error hread
      have hvalues := Reader.values_eq_nil_of_isInner (Reader.isInner_of_read hread)
      refine ⟨seen, List.Subset.refl _, ?_, (hinterned _).clearStack⟩
      simp [Outcome.ofError, Outcome.closures, hvalues]
    · exact ⟨seen, List.Subset.refl _, List.nil_subset _, hinterned _⟩
    · rename_i datum hread
      exact (hinterned _).evaluate (Reader.isWritten_of_read hread)

end Reachable

end Lisplet
