import Lisplet.Proofs.Evaluation.Expansion
import Lisplet.Proofs.Library.Lists
import Lisplet.Regex.PatternEngine

namespace Lisplet.Library

open Eval Evaluator Template

/-- The states that differ in fresh frames at most. -/
def beside (state : State) : Setting where
  Holds other := ∃ frames, other = state.aside frames
  aside := by
    rintro _ ⟨frames, rfl⟩ frame
    exact ⟨frames ++ [frame], state.aside_aside frames [frame]⟩

def pairs (bindings : List (Value × Value)) : Value :=
  .ofList (bindings.map fun binding => .ofList [binding.1, binding.2])

def letForm (bindings : List (Value × Value)) (body : List Value) : Value :=
  .ofList (.symbol letIn.name :: pairs bindings :: body)

def letExpansion (bindings : List (Value × Value)) (body : List Value) : Value :=
  .ofList (.ofList (.symbol SpecialForm.function.symbol :: .ofList (bindings.map Prod.fst) :: body)
    :: bindings.map Prod.snd)

def letNames : List Symbol :=
  [⟨"let"⟩, ⟨"map"⟩, ⟨"first"⟩, ⟨"second"⟩, ⟨"rest"⟩, ⟨"cons"⟩, ⟨"empty?"⟩]

section

variable [RegexEngine]

theorem first_reliable (setting : Setting) (first : Value) (others : List Value) :
    setting.Reliable (.primitive .first) [.ofList (first :: others)] first :=
  setting.reliable_primitive fun _ _ => rfl

theorem second_reliable {setting : Setting}
    (hoffers : ∀ state, setting.Holds state → Offers state .global [] [⟨"first"⟩, ⟨"rest"⟩])
    (id : Nat) (values : List Value) :
    setting.Reliable (second.closure id) [.ofList values] (values.tail.headD .nil) :=
  fun state hstate => ⟨_, second_answers (hoffers state hstate) id values,
    setting.reaches_aside hstate _⟩

variable {setting : Setting} {environment : Environment} {frame : Frame}
  {forms : List SpecialForm} {names : List Symbol} {state : State}

theorem Inside.gives_parts
    (hoffers : ∀ state, setting.Holds state → Offers state .global [.quasiquote, .branch] letNames)
    (h : Inside frame state environment forms letNames) (hstate : setting.Holds state)
    {bindings : List (Value × Value)} (hbindings : frame.get? ⟨"bindings"⟩ = some (pairs bindings))
    {operand callable : Value} (hoperand : Gives environment operand state callable state)
    (hcallable : callable.isFunction = true) (part : Value → Value)
    (hreliable : ∀ name initial, setting.Reliable callable [.ofList [name, initial]]
      (part (.ofList [name, initial]))) :
    ∃ after, Gives environment (call "map" [operand, var "bindings"]) state
        (.ofList (bindings.map fun binding => part (.ofList [binding.1, binding.2]))) after ∧
      setting.Reaches state after := by
  have hpairs : ∀ pair ∈ bindings.map fun binding => Value.ofList [binding.1, binding.2],
      setting.Reliable callable [pair] (part pair) :=
    List.forall_mem_map.mpr fun binding _ => hreliable binding.1 binding.2
  have hmap := map_reliable
    (fun state hstate => (hoffers state hstate).mono (by decide) (by decide)) hcallable part hpairs
  rw [List.map_map] at hmap
  exact h.resolves.gives_call map (by simp [described]) (by decide) rfl
    (.cons hoperand (givesEach_one (h.gives_var "bindings" hbindings))) hstate hmap

theorem letIn_reliable
    (hoffers : ∀ state, setting.Holds state → Offers state .global [.quasiquote, .branch] letNames)
    (bindings : List (Value × Value)) (body : List Value) (id : Nat) :
    setting.Reliable (letIn.closure id) (pairs bindings :: body) (letExpansion bindings body) := by
  refine reliable_of_inside letIn.parameters (Arity.admits_atLeast.mpr (Nat.le_add_left 1 _))
    (by decide) hoffers ?_ id
  intro state environment hstate hinside
  have hfirst := gives_symbol (hinside.resolves.primitive .first (by decide))
  obtain ⟨middle, hnames, hmiddle⟩ := hinside.gives_parts hoffers hstate rfl hfirst rfl
    (fun pair => pair.items.headD .nil) fun name initial => first_reliable setting name [initial]
  have hlater := hinside.of_preserves hmiddle.preserves
  obtain ⟨other, hsecond⟩ := hlater.resolves.closure (show second ∈ described by simp [described])
    (by decide)
  obtain ⟨after, hinitial, hafter⟩ := hlater.gives_parts hoffers hmiddle.holds rfl
    (gives_symbol hsecond) rfl (fun pair => pair.items.tail.headD .nil) fun name initial =>
      second_reliable (fun state hstate => (hoffers state hstate).mono (by decide) (by decide)) _
        [name, initial]
  refine ⟨after, ?_, hmiddle.trans hafter⟩
  refine gives_template (hinside.bound .quasiquote (by decide)) rfl (fills_list rfl ?_)
  refine .cons (fills_list rfl (.cons (fills_atom rfl) (.cons (fills_unquote hnames)
    (.last (fills_splice (hlater.gives_var "body" rfl)))))) (.last (fills_splice hinitial))

theorem expands_of_answers {name : Symbol} {id : Nat} {parameters : Parameters}
    {body expansion : Value} {scope : Environment} {operands : List Value} {after : State}
    (hbound : state.store.globals.get? name = some (.closure id .expander parameters body scope))
    (hanswers : Answers (.closure id .expander parameters body scope) operands state expansion
      after) :
    Eventually (fun fuel => expandOnce (layers fuel) (.ofList (.symbol name :: operands))) state
      expansion after := by
  obtain ⟨fuel, hrun⟩ := (eventually_add (steady_applyAt _ operands) 1).mpr hanswers
  have hexpander : expander? state (.cons (.symbol name) (.ofList operands)) =
      some ⟨id, .expander, parameters, body, scope⟩ := by
    rw [expander?, hbound]
    rfl
  refine ⟨fuel, (expandOnce_of_some hexpander (layers fuel)).trans ?_⟩
  rw [Value.toList?_ofList]
  exact hrun

/-- Whatever the data in it are, the form is expanded to the call of a function, in every reachable
state and in the midst of an evaluation. As the state gains nothing but fresh frames, none of the
data is evaluated. -/
theorem letForm_expands {seen : List Closure} {earlier : State}
    (hreachable : Reachable seen earlier) (hgrows : earlier.store.GrowsInto state.store)
    (hresolves : Resolves state .global letNames) (bindings : List (Value × Value))
    (body : List Value) :
    ∃ frames, Eventually (fun fuel => expandOnce (layers fuel) (letForm bindings body)) state
      (letExpansion bindings body) (state.aside frames) := by
  have hoffers : Offers state .global [.quasiquote, .branch] letNames :=
    .atTop (fun form _ => hgrows.globals (hreachable.contains_special form)) hresolves
  have hkept : ∀ other, (beside state).Holds other →
      Offers other .global [.quasiquote, .branch] letNames := by
    rintro _ ⟨frames, rfl⟩
    exact hoffers.of_preserves (state.preserves_aside frames)
  obtain ⟨id, hbound⟩ := hresolves.closure (show letIn ∈ described by simp [described]) (by decide)
  obtain ⟨_, hanswers, _, frames, rfl⟩ :=
    letIn_reliable hkept bindings body id state ⟨[], state.aside_nil.symm⟩
  exact ⟨frames, expands_of_answers hbound hanswers⟩

end

open scoped Pattern

/-- Once the library is loaded, with data that could not be evaluated. -/
theorem letForm_expands_loaded :
    ∃ seen state, Reachable seen state ∧ state.store.GrowsInto state.store ∧
      Resolves state .global letNames ∧
      ∃ frames, Eventually (fun fuel => expandOnce (layers fuel)
          (letForm [(.symbol ⟨"x"⟩, .ofList [.int 1]), (.int 2, .symbol ⟨"y"⟩)] [.symbol ⟨"x"⟩]))
        state
        (.ofList [.ofList [.symbol SpecialForm.function.symbol,
          .ofList [.symbol ⟨"x"⟩, .int 2], .symbol ⟨"x"⟩], .ofList [.int 1], .symbol ⟨"y"⟩])
        (state.aside frames) := by
  have hnames : letNames ⊆ described.map Definition.name ++ initialNames := by decide
  obtain ⟨seen, state, hreachable, hresolves⟩ := exists_reachable_resolves hnames
  exact ⟨seen, state, hreachable, .refl _, hresolves,
    letForm_expands hreachable (.refl _) hresolves _ _⟩

end Lisplet.Library
