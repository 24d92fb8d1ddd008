import Lisplet.Proofs.Evaluation.Fuel
import Lisplet.Proofs.Evaluation.Growth
import Lisplet.Proofs.Evaluation.Stack

namespace Lisplet

/-! What quotations and calls of primitives come to, with as many layers as they need. -/

/-- Quotation works, whatever the name is bound to. -/
def State.Quotes (state : State) : Prop :=
  state.store.globals.contains SpecialForm.quote.symbol = true

namespace Eval

open Evaluator

variable {environment : Environment} {state after : State}

variable [RegexEngine]

theorem steady_evalEach (environment : Environment) (expressions : List Value) :
    Steady fun fuel => evalEach (evalAt fuel environment) expressions :=
  fun _ _ hle => @Law.evalEach fuelLaw _ _ ((fuelLaw_respects hle).eval environment) expressions

theorem eventually_quote (hquotes : state.Quotes) {datum value : Value} :
    Eventually (fun fuel => evalAt fuel environment
      (.ofList [.symbol SpecialForm.quote.symbol, datum])) state value after ↔
        value = datum ∧ after = state := by
  have hcontains : (state.store.get? environment SpecialForm.quote.symbol).isSome = true := by
    rw [Store.isSome_get?, Store.contains, hquotes, Bool.or_true]
  obtain ⟨operator, hoperator⟩ := Option.isSome_iff_exists.mp hcontains
  have hhead : evalAt 1 environment (.symbol SpecialForm.quote.symbol) state =
      .ok operator state := by
    change ofOption _ (state.store.get? environment SpecialForm.quote.symbol) state = _
    rw [hoperator]
    rfl
  have hdatum : Eventually (fun fuel => evalAt fuel environment
      (.ofList [.symbol SpecialForm.quote.symbol, datum])) state datum state :=
    ⟨2, (bind_ok hhead).trans rfl⟩
  constructor
  · exact hdatum.unique (steady_evalAt _ _)
  · rintro ⟨rfl, rfl⟩
    exact hdatum

theorem Eventually.quotes {datum value : Value} {state after : State}
    (h : Eventually (fun fuel => evalAt fuel environment datum) state value after)
    (hquotes : state.Quotes) : after.Quotes := by
  obtain ⟨fuel, hrun⟩ := h
  have hgrows := run_grows fuel (.eval environment datum) state
  have hafter : final (Request.run fuel (.eval environment datum)) state = after := final_ok hrun
  rw [hafter] at hgrows
  exact hgrows.globals hquotes

theorem eventually_call (primitive : Primitive) (operands : List Value) {value : Value} :
    Eventually (fun fuel => evalAt fuel environment (.ofList (.primitive primitive :: operands)))
      state value after ↔
        ∃ arguments middle,
          Eventually (fun fuel => evalEach (evalAt fuel environment) operands)
            state arguments middle ∧
          Eventually (fun fuel => runPrimitive (layers fuel) primitive arguments)
            middle value after := by
  have hsteady : ∀ arguments, Steady fun fuel => runPrimitive (layers fuel) primitive arguments :=
    fun arguments _ _ hle =>
      @Law.runPrimitive fuelLaw _ _ _ (fuelLaw_respects hle) primitive arguments
  have hmarked : ∀ fuel,
      evalAt (fuel + 2) environment (.ofList (.primitive primitive :: operands)) =
      applying (.primitive primitive) (evalEach (evalAt (fuel + 1) environment) operands >>=
        runPrimitive (layers (fuel + 1)) primitive) := by
    intro fuel
    change (Pure.pure (Value.primitive primitive) >>= fun operator =>
      ofOption Error.improperForm (Value.ofList operands).toList? >>= fun operands =>
        applying (.primitive primitive)
          (applyForm (layers (fuel + 1)) environment (.primitive primitive) operator operands)) = _
    rw [Value.toList?_ofList, pure_bind]
    rfl
  have hdisciplined : ∀ fuel, Disciplined Applied (evalEach (evalAt fuel environment) operands >>=
      runPrimitive (layers fuel) primitive) := by
    intro fuel
    have hlayers := stackLaw_respects fuel
    exact .bind (@Law.evalEach stackLaw _ _ (hlayers.eval environment) operands) fun _ _ =>
      @Law.runPrimitive stackLaw _ _ _ hlayers primitive _
  rw [← eventually_bind (steady_evalEach environment operands) hsteady,
    ← eventually_add (steady_evalAt environment _) 2,
    ← eventually_add ((steady_evalEach environment operands).bind hsteady) 1]
  simp only [hmarked]
  exact exists_congr fun fuel => (hdisciplined (fuel + 1)).applying_eq_ok_iff

theorem eventually_evalEach_cons {expression : Value} {rest values : List Value} :
    Eventually (fun fuel => evalEach (evalAt fuel environment) (expression :: rest))
      state values after ↔
        ∃ value middle others,
          Eventually (fun fuel => evalAt fuel environment expression) state value middle ∧
          Eventually (fun fuel => evalEach (evalAt fuel environment) rest) middle others after ∧
          values = value :: others := by
  have hrest := steady_evalEach environment rest
  refine (eventually_bind (steady_evalAt environment expression) fun value =>
    hrest.map (value :: ·)).trans ?_
  refine exists_congr fun value => exists_congr fun middle => ?_
  rw [eventually_map hrest]
  exact exists_and_left.symm

theorem eventually_list_call {expression value : Value} :
    Eventually (fun fuel => evalAt fuel environment (.ofList [.primitive .list, expression]))
      state value after ↔
        ∃ item, Eventually (fun fuel => evalAt fuel environment expression) state item after ∧
          value = .ofList [item] := by
  rw [eventually_call]
  constructor
  · rintro ⟨arguments, middle, hvalues, hlist⟩
    obtain ⟨item, last, others, hitem, hothers, rfl⟩ := eventually_evalEach_cons.mp hvalues
    obtain ⟨rfl, rfl⟩ := eventually_pure.mp hothers
    obtain ⟨rfl, rfl⟩ := eventually_pure.mp hlist
    exact ⟨item, hitem, rfl⟩
  · rintro ⟨item, hitem, rfl⟩
    refine ⟨[item], after, eventually_evalEach_cons.mpr ⟨item, after, [], hitem, ?_, rfl⟩, ?_⟩
    · exact eventually_pure.mpr ⟨rfl, rfl⟩
    · exact eventually_pure.mpr ⟨rfl, rfl⟩

def joined? : List Value → Option (List Value)
  | [] => some []
  | value :: rest => value.toList?.bind fun front => (joined? rest).map (front ++ ·)

omit [RegexEngine] in
theorem concatItems_eq_ok_iff {values items : List Value} :
    concatItems values state = .ok items after ↔ joined? values = some items ∧ after = state := by
  induction values generalizing items with
  | nil =>
      constructor
      · intro h
        cases h
        exact ⟨rfl, rfl⟩
      · rintro ⟨h, rfl⟩
        cases h
        rfl
  | cons value rest ih =>
      have hrun : concatItems (value :: rest) =
          Evaluator.items .concat value >>= fun front =>
            concatItems rest >>= fun back => Pure.pure (front ++ back) := rfl
      rw [hrun, joined?, Evaluator.items]
      cases value.toList? with
      | none =>
          constructor
          · intro h
            cases h
          · rintro ⟨h, _⟩
            cases h
      | some front =>
          rw [ofOption, pure_bind, ← eventually_const, eventually_map (steady_const _)]
          simp only [eventually_const, ih, Option.bind_some, Option.map_eq_some_iff]
          constructor
          · rintro ⟨back, ⟨hback, rfl⟩, rfl⟩
            exact ⟨⟨back, hback, rfl⟩, rfl⟩
          · rintro ⟨⟨back, hback, rfl⟩, rfl⟩
            exact ⟨back, ⟨hback, rfl⟩, rfl⟩

theorem eventually_concat_call {operands : List Value} {value : Value} :
    Eventually (fun fuel => evalAt fuel environment (.ofList (.primitive .concat :: operands)))
      state value after ↔
        ∃ values items,
          Eventually (fun fuel => evalEach (evalAt fuel environment) operands)
            state values after ∧
          joined? values = some items ∧ value = .ofList items := by
  rw [eventually_call]
  refine exists_congr fun values => ?_
  have hconcat : ∀ middle, Eventually (fun fuel => runPrimitive (layers fuel) .concat values)
      middle value after ↔ ∃ items, (joined? values = some items ∧ after = middle) ∧
        value = .ofList items := by
    intro middle
    refine (eventually_map (steady_const (concatItems values))).trans ?_
    refine exists_congr fun items => and_congr_left fun _ => ?_
    rw [eventually_const, concatItems_eq_ok_iff]
  constructor
  · rintro ⟨middle, hvalues, hresult⟩
    obtain ⟨items, ⟨hitems, rfl⟩, rfl⟩ := (hconcat middle).mp hresult
    exact ⟨items, hvalues, hitems, rfl⟩
  · rintro ⟨items, hvalues, hitems, rfl⟩
    exact ⟨after, hvalues, (hconcat after).mpr ⟨items, ⟨hitems, rfl⟩, rfl⟩⟩

end Eval

end Lisplet
