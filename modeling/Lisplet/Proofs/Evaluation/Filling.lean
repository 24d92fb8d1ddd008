import Lisplet.Proofs.Evaluation.Desugaring
import Lisplet.Proofs.Evaluation.Rules

namespace Lisplet

/-! Rules for templates: what stands in the place of each part once the marked places are
evaluated. -/

namespace Template

open Eval Evaluator

variable [RegexEngine]

def Fills (environment : Environment) (template : Value) (state : State) (values : List Value)
    (after : State) : Prop :=
  Eventually (fun fuel => element (evalAt fuel environment) template) state values after

inductive FillsEach (environment : Environment) :
    List Value → State → List Value → State → Prop
  | nil {state : State} : FillsEach environment [] state [] state
  | cons {template : Value} {templates front back : List Value} {state middle after : State} :
      Fills environment template state front middle →
      FillsEach environment templates middle back after →
        FillsEach environment (template :: templates) state (front ++ back) after

variable {environment : Environment} {state after : State} {template operand value : Value}
  {templates values : List Value}

theorem fills_atom (h : template.isPair = false) :
    Fills environment template state [template] state := by
  refine ⟨0, ?_⟩
  cases template with
  | cons => cases h
  | _ => rfl

theorem fills_unquote (h : Gives environment operand state value after) :
    Fills environment (.ofList [.symbol Sugar.unquote.symbol, operand]) state [value] after :=
  (eventually_map (steady_evalAt environment operand)).mpr ⟨value, h, rfl⟩

theorem fills_splice (h : Gives environment operand state (.ofList values) after) :
    Fills environment (.ofList [.symbol Sugar.splice.symbol, operand]) state values after := by
  refine (eventually_bind (steady_evalAt environment operand) fun value =>
    steady_const (ofOption (.spliceNotList value) value.toList?)).mpr ?_
  exact ⟨_, after, h, eventually_ofOption.mpr ⟨Value.toList?_ofList values, rfl⟩⟩

theorem FillsEach.last (h : Fills environment template state values after) :
    FillsEach environment [template] state values after := by
  rw [← List.append_nil values]
  exact .cons h .nil

theorem FillsEach.following (h : FillsEach environment templates state values after) :
    Eventually (fun fuel => following (evalAt fuel environment) (.ofList templates)) state
      (.ofList values) after := by
  induction h with
  | nil => exact ⟨0, rfl⟩
  | @cons template templates front back state middle after hfirst _ ih =>
      have hsteady := (steady_element_following environment (.ofList templates)).2
      refine (eventually_bind (steady_element_following environment template).1 fun front =>
        hsteady.map (Value.ofDotted front)).mpr ?_
      refine ⟨front, middle, hfirst, (eventually_map hsteady).mpr ⟨.ofList back, ih, ?_⟩⟩
      exact Value.ofDotted_append front back .emptyList

theorem fills_list (hmark : mark? template = none)
    (h : FillsEach environment (template :: templates) state values after) :
    Fills environment (.ofList (template :: templates)) state [.ofList values] after := by
  have helement : ∀ eval, element eval (.ofList (template :: templates)) =
      following eval (.ofList (template :: templates)) >>= fun value => Pure.pure [value] :=
    fun eval => element_of_unmarked hmark eval _
  rw [Fills]
  simp only [helement]
  have hsteady := (steady_element_following environment (.ofList (template :: templates))).2
  exact (eventually_map hsteady).mpr ⟨.ofList values, h.following, rfl⟩

theorem gives_template
    (hbound : (state.store.get? environment SpecialForm.quasiquote.symbol).isSome = true)
    (hsplice : isSplice template = false) (h : Fills environment template state [value] after) :
    Gives environment (.ofList [.symbol SpecialForm.quasiquote.symbol, template]) state value
      after := by
  apply gives_special .quasiquote hbound
  obtain ⟨fuel, hrun⟩ := h
  refine ⟨fuel, (bind_ok hrun).trans ?_⟩
  rw [hsplice]
  rfl

end Template

end Lisplet
