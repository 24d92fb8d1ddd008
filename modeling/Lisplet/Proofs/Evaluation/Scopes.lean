import Lisplet.Proofs.Evaluation.Forms
import Lisplet.Regex.PatternEngine

namespace Lisplet

/-! Where scopes lead. Who has an environment has its innermost frame. The others are found by going
on from each frame to the one it was put on, and that way ends at the global frame. -/

def Environment.innermost (environment : Environment) : Option Nat :=
  environment.locals.head?

inductive Outward (parents : List (Option Nat)) : Option Nat → List Nat → Prop
  | globals : Outward parents none []
  | frame {index : Nat} {outer : Option Nat} {rest : List Nat} :
      parents[index]? = some outer → Outward parents outer rest →
        Outward parents (some index) (index :: rest)

inductive Seeks (parents : List (Option Nat)) (store : Store) (key : Symbol) :
    Option Nat → Option Owner → Prop
  | globals : store.globals.contains key = true → Seeks parents store key none (some .globals)
  | nowhere : store.globals.contains key = false → Seeks parents store key none none
  | here {index : Nat} : (store.frame index).contains key = true →
      Seeks parents store key (some index) (some (.frame index))
  | outer {index : Nat} {outer : Option Nat} {owner : Option Owner} :
      (store.frame index).contains key = false → parents[index]? = some outer →
        Seeks parents store key outer owner → Seeks parents store key (some index) owner

theorem Outward.seeks {parents : List (Option Nat)} {start : Option Nat} {frames : List Nat}
    (h : Outward parents start frames) (store : Store) (key : Symbol) :
    Seeks parents store key start (store.owner? ⟨frames⟩ key) := by
  induction h with
  | globals =>
      cases hglobals : store.globals.contains key with
      | true => simpa [Store.owner?, hglobals] using Seeks.globals hglobals
      | false => simpa [Store.owner?, hglobals] using Seeks.nowhere hglobals
  | @frame index outer rest hparent _ ih =>
      cases hframe : (store.frame index).contains key with
      | true => simpa [Store.owner?, hframe] using Seeks.here hframe
      | false =>
          have houter := Seeks.outer hframe hparent ih
          simpa [Store.owner?, hframe] using houter

/-- The way out of an environment: it leads over frames that are there, over none of them twice, and
ends at the global frame. So a search along it comes to an end, and looking a name up and assigning
to it come to the same one. -/
structure Environment.LeadsOut (environment : Environment) (parents : List (Option Nat))
    (state : State) : Prop where
  present : ∀ index ∈ environment.locals, index < state.store.locals.size
  nodup : environment.locals.Nodup
  outward : Outward parents environment.innermost environment.locals
  search : ∀ key, ∃ owner, Seeks parents state.store key environment.innermost owner ∧
    Eval.lookup environment key state =
      Eval.ofOption (.undefined key) (owner.bind (state.store.valueAt key)) state ∧
    ∀ value, Eval.assign environment key value state =
      match owner with
      | some owner => .ok () { state with store := state.store.bind owner key value }
      | none => .error (.error (.unassignable key)) state

theorem Eval.assign_eq (environment : Environment) (key : Symbol) (value : Value) (state : State) :
    assign environment key value state =
      match state.store.owner? environment key with
      | some owner => .ok () { state with store := state.store.bind owner key value }
      | none => .error (.error (.unassignable key)) state := by
  have hrun : ∀ change : State → Bool × State,
      (modifyGet change : Eval Bool) state = .ok (change state).1 (change state).2 := fun _ => rfl
  rw [assign, bind_ok (hrun _)]
  cases state.store.owner? environment key <;> rfl

namespace History.Links

variable {history : History} {locals : List Nat}

theorem nodup (h : history.Links locals) : locals.Nodup := by
  induction locals with
  | nil => exact .nil
  | cons frame rest ih =>
      obtain ⟨_, hearlier, hrest⟩ := h
      refine List.nodup_cons.mpr ⟨fun hmem => ?_, ih hrest⟩
      exact Nat.lt_irrefl _ (hearlier frame hmem)

theorem outward (h : history.Links locals) :
    Outward (history.parents.map Environment.innermost) locals.head? locals := by
  induction locals with
  | nil => exact .globals
  | cons frame rest ih =>
      obtain ⟨hparent, _, hrest⟩ := h
      refine .frame ?_ (ih hrest)
      rw [List.getElem?_map, hparent]
      rfl

theorem leadsOut (h : history.Links locals) {state : State}
    (hframes : history.parents.length = state.store.locals.size) :
    Environment.LeadsOut ⟨locals⟩ (history.parents.map Environment.innermost) state where
  present index hindex := hframes ▸ h.lt index hindex
  nodup := h.nodup
  outward := h.outward
  search key := by
    refine ⟨_, h.outward.seeks state.store key, ?_, fun value => Eval.assign_eq _ _ _ _⟩
    rw [← Store.get?_eq_bind_owner?]
    rfl

end History.Links

namespace Evaluator

open Eval

def definition (key : Symbol) (expression : Value) : Value :=
  .ofList [.symbol SpecialForm.define.symbol, .symbol key, expression]

variable [RegexEngine]

/-- From whatever environment, a definition binds its name in the global frame once the value is
there, and the top level then finds the value under the name. -/
structure DefinesGlobally (state : State) : Prop where
  written : ∀ {environment : Environment} {key : Symbol} {expression value : Value} {fuel : Nat}
    {middle : State},
      evalAt (fuel + 1) environment expression
          { state with stack := .symbol SpecialForm.define.symbol :: state.stack } =
        .ok value middle →
      ∃ after, evalAt (fuel + 2) environment (definition key expression) state = .ok value after ∧
        after.store = middle.store.define key value
  found : ∀ {environment : Environment} {key : Symbol} {expression value : Value} {fuel : Nat}
    {after : State},
      evalAt fuel environment (definition key expression) state = .ok value after →
        Session.eval (.symbol key) after = .ok value after

variable {state : State}

theorem evalAt_definition
    (h : ∀ form : SpecialForm, state.store.globals.contains form.symbol = true)
    (environment : Environment) (key : Symbol) (expression : Value) (fuel : Nat) :
    evalAt (fuel + 2) environment (definition key expression) state =
      (evalAt (fuel + 1) environment expression >>= fun value => do
        nameClosure key value
        define key value
        pop
        return value) { state with stack := .symbol SpecialForm.define.symbol :: state.stack } := by
  rw [definition, evalAt_special h, applying]
  have hpush : push (.symbol SpecialForm.define.symbol) state =
    .ok () { state with stack := .symbol SpecialForm.define.symbol :: state.stack } := rfl
  rw [bind_ok hpush]
  simp only [evalSpecial, target, pure_bind, bind_assoc]
  rfl

omit [RegexEngine] in
theorem store_nameClosure (name : Symbol) (value : Value) (state : State) :
    ∃ named, nameClosure name value state = .ok () named ∧ named.store = state.store := by
  cases value with
  | closure id kind parameters body scope => exact ⟨_, rfl, rfl⟩
  | _ => exact ⟨state, rfl, rfl⟩

theorem definition_written
    (h : ∀ form : SpecialForm, state.store.globals.contains form.symbol = true)
    {environment : Environment} {key : Symbol} {expression value : Value} {fuel : Nat}
    {middle : State}
    (hvalue : evalAt (fuel + 1) environment expression
      { state with stack := .symbol SpecialForm.define.symbol :: state.stack } =
        .ok value middle) :
    ∃ after, evalAt (fuel + 2) environment (definition key expression) state = .ok value after ∧
      after.store = middle.store.define key value := by
  obtain ⟨named, hnamed, hstore⟩ := store_nameClosure key value middle
  rw [evalAt_definition h, bind_ok hvalue, bind_ok hnamed, ← hstore]
  exact ⟨_, rfl, rfl⟩

theorem eval_symbol_of_global {key : Symbol} {value : Value}
    (h : state.store.globals.get? key = some value) :
    Session.eval (.symbol key) state = .ok value state := by
  change ofOption _ (state.store.get? .global key) state = _
  have hfound : state.store.get? .global key = some value := h
  rw [hfound]
  rfl

theorem definition_found
    (h : ∀ form : SpecialForm, state.store.globals.contains form.symbol = true)
    {environment : Environment} {key : Symbol} {expression value : Value} {fuel : Nat}
    {after : State}
    (hvalue : evalAt fuel environment (definition key expression) state = .ok value after) :
    Session.eval (.symbol key) after = .ok value after := by
  match fuel with
  | 0 | 1 => cases hvalue
  | fuel + 2 =>
      rw [evalAt_definition h] at hvalue
      obtain ⟨result, middle, hresult, hrest⟩ := bind_eq_ok_iff.mp hvalue
      obtain ⟨last, hlast, hstore⟩ := definition_written h hresult
      rw [evalAt_definition h, bind_ok hresult, hrest] at hlast
      cases hlast
      refine eval_symbol_of_global ?_
      rw [hstore]
      exact Frame.get?_insert_self _ _ _

end Evaluator

section

variable [RegexEngine]

/-- Nothing that a closure has captured is lost. However long the interpreter goes on, each
environment in sight leads out to the global frame, the one that definitions write to and that the
top level reads. -/
structure ScopesLeadOut (seen : List Closure) (state : State) : Prop where
  stored : ∀ closure ∈ state.closures, closure ∈ seen
  captured : ∃ parents : List (Option Nat), parents.length = state.store.locals.size ∧
    ∀ environment : Environment, environment.InSight seen → environment.LeadsOut parents state
  defined : ∀ later : State, state.store.GrowsInto later.store → Evaluator.DefinesGlobally later
  stepped : ∀ reader : Reader, ∃ later, seen ⊆ later ∧
    (TopLevel.step state reader).1.closures ⊆ later ∧
      Reachable later (TopLevel.step state reader).2.1

theorem Reachable.scopes_leadOut {seen : List Closure} {state : State}
    (h : Reachable seen state) : ScopesLeadOut seen state where
  stored := h.mem_seen
  captured := by
    obtain ⟨history, hstate, hseen⟩ := h.follows
    refine ⟨history.parents.map Environment.innermost, ?_, fun environment henvironment => ?_⟩
    · rw [List.length_map, hstate.frames]
    · exact (links_of_inSight hseen henvironment).leadsOut hstate.frames
  defined later hlater := by
    have hbound : ∀ form : SpecialForm, later.store.globals.contains form.symbol = true :=
      fun form => hlater.globals (h.contains_special form)
    exact ⟨Evaluator.definition_written hbound, Evaluator.definition_found hbound⟩
  stepped := h.step

end

open scoped Pattern

/-- A function made inside another one captures the frame of the call. -/
theorem Reachable.scopes_leadOut_inner_function :
    let inner := Value.ofList [.symbol ⟨"fn"⟩, .emptyList, .symbol ⟨"x"⟩]
    let outer := Value.ofList [.symbol ⟨"fn"⟩, .ofList [.symbol ⟨"x"⟩], inner]
    let request := Request.eval .global (.ofList [outer, .int 1])
    let after := Eval.final (request.run 4) (State.initial .empty)
    ∃ parents, parents.length = 1 ∧ Environment.LeadsOut ⟨[0]⟩ parents after := by
  intro inner outer request after
  have hrequest : request.InSight [] := ⟨.inl rfl, fun _ hclosure => nomatch hclosure⟩
  have hreachable := (Reachable.initial .empty).request 4 hrequest
  have hclosure : ⟨1, .function, ⟨[], none⟩, .ofList [.symbol ⟨"x"⟩], ⟨[0]⟩⟩ ∈
      request.revealed 4 (State.initial .empty) ++ [] := List.mem_cons_self
  obtain ⟨parents, hlength, hleads⟩ := hreachable.scopes_leadOut.captured
  exact ⟨parents, hlength, hleads ⟨[0]⟩ (.inr ⟨_, hclosure, List.suffix_refl [0]⟩)⟩

end Lisplet
