import Lisplet.Proofs.Evaluation.Calls
import Lisplet.Proofs.Evaluation.Forms
import Lisplet.Proofs.Evaluation.Frames
import Lisplet.Proofs.Evaluation.Growth

namespace Lisplet

/-! Rules for what expressions come to, one for each kind of expression. They say nothing of layers:
there are always enough of them. -/

def Value.isFunction : Value → Bool
  | primitive _ | closure _ .function _ _ _ => true
  | _ => false

def Value.isConstant : Value → Bool
  | symbol _ | cons _ _ => false
  | _ => true

namespace Evaluator

open Eval

variable [RegexEngine]

def Gives (environment : Environment) (expression : Value) (state : State) (value : Value)
    (after : State) : Prop :=
  Eventually (fun fuel => evalAt fuel environment expression) state value after

def GivesEach (environment : Environment) (expressions : List Value) (state : State)
    (values : List Value) (after : State) : Prop :=
  Eventually (fun fuel => evalEach (evalAt fuel environment) expressions) state values after

/-- What a call on values comes to; for an expander it is the expansion. -/
def Answers (callable : Value) (arguments : List Value) (state : State) (value : Value)
    (after : State) : Prop :=
  Eventually (fun fuel => applyAt fuel callable arguments) state value after

variable {environment : Environment} {state middle after : State} {head operator value : Value}
  {operands arguments : List Value}

theorem steady_applyAt (callable : Value) (arguments : List Value) :
    Steady fun fuel => applyAt fuel callable arguments :=
  fun _ _ hle => (fuelLaw_respects hle).apply callable arguments

theorem steady_applyForm (environment : Environment) (head operator : Value)
    (operands : List Value) :
    Steady fun fuel => applyForm (layers fuel) environment head operator operands :=
  fun _ _ hle => @Law.applyForm fuelLaw _ _ _ (fuelLaw_respects hle) environment head operator
    operands

theorem Gives.grows {expression : Value} (h : Gives environment expression state value after) :
    state.store.GrowsInto after.store := by
  obtain ⟨fuel, hrun⟩ := h
  have hgrows := run_grows fuel (.eval environment expression) state
  rwa [final_ok (show (Request.eval environment expression).run fuel state = _ from hrun)] at hgrows

theorem Gives.stack_eq {expression : Value} (h : Gives environment expression state value after) :
    after.stack = state.stack := by
  obtain ⟨fuel, hrun⟩ := h
  exact ((stackLaw_respects fuel).eval environment expression).stack_eq hrun

theorem evalAt_symbol {name : Symbol} (h : state.store.get? environment name = some value)
    (fuel : Nat) : evalAt (fuel + 1) environment (.symbol name) state = .ok value state := by
  change ofOption _ (state.store.get? environment name) state = _
  rw [h]
  rfl

theorem gives_symbol {name : Symbol} (h : state.store.get? environment name = some value) :
    Gives environment (.symbol name) state value state :=
  ⟨1, evalAt_symbol h 0⟩

theorem Gives.eq_of_symbol {name : Symbol} (h : Gives environment (.symbol name) state value after) :
    after = state := by
  cases hbound : state.store.get? environment name with
  | some bound => exact ((gives_symbol hbound).unique (steady_evalAt environment _) h).2
  | none =>
      obtain ⟨fuel, hrun⟩ := h
      cases fuel with
      | zero => cases hrun
      | succ fuel =>
          change ofOption _ (state.store.get? environment name) state = _ at hrun
          rw [hbound] at hrun
          cases hrun

theorem gives_constant (h : value.isConstant = true) :
    Gives environment value state value state := by
  refine ⟨1, ?_⟩
  cases value with
  | symbol => cases h
  | cons => cases h
  | _ => rfl

theorem Gives.eq_of_constant {expression : Value}
    (h : Gives environment expression state value after) (hconstant : expression.isConstant = true) :
    value = expression ∧ after = state :=
  (gives_constant hconstant).unique (steady_evalAt environment expression) h

theorem givesEach_nil : GivesEach environment [] state [] state :=
  ⟨0, rfl⟩

theorem GivesEach.cons {expression : Value} {expressions values : List Value}
    (hfirst : Gives environment expression state value middle)
    (hrest : GivesEach environment expressions middle values after) :
    GivesEach environment (expression :: expressions) state (value :: values) after :=
  eventually_evalEach_cons.mpr ⟨value, middle, values, hfirst, hrest, rfl⟩

theorem givesEach_one {expression : Value}
    (h : Gives environment expression state value after) :
    GivesEach environment [expression] state [value] after :=
  .cons h givesEach_nil

/-! Forms. Once the value of the head is known, marking the form makes no difference to a run that
succeeds. -/

theorem gives_form (hhead : Gives environment head state operator middle)
    (happlied : Eventually
      (fun fuel => applyForm (layers fuel) environment head operator operands)
        middle value after) :
    Gives environment (.ofList (head :: operands)) state value after := by
  obtain ⟨fuel, hoperator⟩ := hhead
  obtain ⟨fuel', hvalue⟩ := happlied
  have hdeep := (steady_evalAt environment head _ _ (Nat.le_max_left fuel fuel')).ok hoperator
  have hdeeper := (steady_applyForm environment head operator operands _ _
    (Nat.le_max_right fuel fuel')).ok hvalue
  have hbody := @Law.applyForm stackLaw _ _ _ (stackLaw_respects (max fuel fuel')) environment head
    operator operands
  exact ⟨max fuel fuel' + 1,
    (evalAt_of_head hdeep operands).trans (hbody.applying_eq_ok_iff.mpr hdeeper)⟩

theorem applyForm_function {inner : Evaluator} (hhead : namesForm? head = none)
    (hfunction : operator.isFunction = true) (operands : List Value) :
    applyForm inner environment head operator operands =
      evalEach (inner.eval environment) operands >>= applyValue inner operator := by
  rw [namesForm?] at hhead
  cases operator with
  | primitive primitive => simp only [applyForm, hhead]
  | closure id kind parameters body scope =>
      cases kind with
      | function => simp only [applyForm, hhead]
      | expander => cases hfunction
  | _ => cases hfunction

theorem gives_call (hname : namesForm? head = none)
    (hhead : Gives environment head state operator middle)
    (hfunction : operator.isFunction = true) {last : State}
    (hoperands : GivesEach environment operands middle arguments last)
    (hcall : Answers operator arguments last value after) :
    Gives environment (.ofList (head :: operands)) state value after := by
  refine gives_form hhead ?_
  simp only [applyForm_function hname hfunction]
  have hsteady : ∀ arguments, Steady fun fuel => applyValue (layers fuel) operator arguments :=
    fun arguments _ _ hle =>
      @Law.applyValue fuelLaw _ _ _ (fuelLaw_respects hle) operator arguments
  refine (eventually_bind (steady_evalEach environment operands) hsteady).mpr ?_
  exact ⟨arguments, last, hoperands,
    (eventually_add (steady_applyAt operator arguments) 1).mpr hcall⟩

theorem gives_expanded {id : Nat} {parameters : Parameters} {body expansion : Value}
    {scope : Environment} {last : State} (hname : namesForm? head = none)
    (hhead : Gives environment head state (.closure id .expander parameters body scope) middle)
    (hexpansion : Answers (.closure id .expander parameters body scope) operands middle
      expansion last)
    (hvalue : Gives environment expansion last value after) :
    Gives environment (.ofList (head :: operands)) state value after := by
  refine gives_form hhead ?_
  simp only [applyForm_expander hname]
  have hsteady := steady_applyAt (.closure id .expander parameters body scope) operands
  refine (eventually_bind (fun _ _ hle => hsteady _ _ (Nat.succ_le_succ hle)) fun expansion =>
    steady_evalAt environment expansion).mpr ?_
  exact ⟨expansion, last, (eventually_add hsteady 1).mpr hexpansion, hvalue⟩

theorem gives_special (form : SpecialForm)
    (hbound : (state.store.get? environment form.symbol).isSome = true)
    (happlied : Eventually (fun fuel => evalSpecial (layers fuel) environment form operands)
      state value after) :
    Gives environment (.ofList (.symbol form.symbol :: operands)) state value after := by
  obtain ⟨operator, hoperator⟩ := Option.isSome_iff_exists.mp hbound
  refine gives_form (gives_symbol hoperator) ?_
  simp only [applyForm_special]
  exact happlied

section Branch

variable {condition consequence alternative result : Value}

theorem gives_branch
    (hbound : (state.store.get? environment SpecialForm.branch.symbol).isSome = true)
    (hcondition : Gives environment condition state result middle)
    (hvalue : Gives environment (if result.truthy then consequence else alternative)
      middle value after) :
    Gives environment
      (.ofList [.symbol SpecialForm.branch.symbol, condition, consequence, alternative])
      state value after := by
  apply gives_special .branch hbound
  refine (eventually_bind (steady_evalAt environment condition) fun _ =>
    (steady_evalAt environment consequence).ite (steady_evalAt environment alternative) _).mpr ?_
  refine ⟨result, middle, hcondition, ?_⟩
  split
  · rename_i htruthy
    rwa [if_pos htruthy] at hvalue
  · rename_i hfalsy
    rwa [if_neg hfalsy] at hvalue

end Branch

def makes : ClosureKind → SpecialForm
  | .function => .function
  | .expander => .expander

theorem gives_closure (kind : ClosureKind) {parameters : Parameters} {list first : Value}
    {rest : List Value}
    (hbound : (state.store.get? environment (makes kind).symbol).isSome = true)
    (hparameters : Parameters.ofValue list = .ok parameters) :
    Gives environment (.ofList (.symbol (makes kind).symbol :: list :: first :: rest)) state
      (.closure state.names.next kind parameters (.ofList (first :: rest)) environment)
      { state with names := state.names.push } := by
  apply gives_special (makes kind) hbound
  have hspecial : evalSpecial (layers 0) environment (makes kind) (list :: first :: rest) =
      newClosure kind parameters (.ofList (first :: rest)) environment := by
    cases kind
    all_goals
      simp only [makes, evalSpecial, makeClosure, hparameters]
      rfl
  exact ⟨0, congrFun hspecial state⟩

theorem gives_define (key : Symbol) {expression : Value}
    (hbound : (state.store.get? environment SpecialForm.define.symbol).isSome = true)
    {id : Nat} {kind : ClosureKind} {parameters : Parameters} {body : Value} {scope : Environment}
    (hvalue : Gives environment expression state (.closure id kind parameters body scope) after) :
    Gives environment (.ofList [.symbol SpecialForm.define.symbol, .symbol key, expression]) state
      (.closure id kind parameters body scope)
      { after with
        names := after.names.assign id key
        store := after.store.define key (.closure id kind parameters body scope) } := by
  apply gives_special .define hbound
  obtain ⟨fuel, hrun⟩ := hvalue
  exact ⟨fuel, bind_ok hrun⟩

theorem applyAt_closure {id : Nat} {kind : ClosureKind} {parameters : Parameters}
    {expression : Value} {scope : Environment}
    (harity : parameters.arity.Admits arguments.length) (fuel : Nat) :
    applyAt (fuel + 1) (.closure id kind parameters (.ofList [expression]) scope) arguments state =
      evalAt fuel (scope.push state.store.locals.size) expression
        (state.aside [parameters.frame arguments]) := by
  have hchecked : ∀ name, checkArity name parameters.arity arguments.length state =
      .ok () state := by
    intro name
    rw [checkArity, if_pos harity]
    rfl
  have hget : (get : Eval State) state = .ok state state := rfl
  refine (bind_ok hget).trans ((bind_ok (hchecked _)).trans
    ((bind_ok (extend_eq scope (parameters.frame arguments) state)).trans ?_))
  rw [Value.items_ofList]
  exact congrFun (bind_pure _) _

theorem answers_closure {id : Nat} {kind : ClosureKind} {parameters : Parameters}
    {expression : Value} {scope : Environment}
    (harity : parameters.arity.Admits arguments.length)
    (hvalue : Gives (scope.push state.store.locals.size) expression
      (state.aside [parameters.frame arguments]) value after) :
    Answers (.closure id kind parameters (.ofList [expression]) scope) arguments state value
      after := by
  obtain ⟨fuel, hrun⟩ := hvalue
  exact ⟨fuel + 1, (applyAt_closure harity fuel).trans hrun⟩

theorem answers_primitive {primitive : Primitive}
    (h : ∀ inner, runPrimitive inner primitive arguments state = .ok value after) :
    Answers (.primitive primitive) arguments state value after :=
  ⟨1, h (layers 0)⟩

theorem gives_primitive (primitive : Primitive)
    (hbound : state.store.get? environment primitive.symbol = some (.primitive primitive))
    (hoperands : GivesEach environment operands state arguments middle)
    (h : ∀ inner, runPrimitive inner primitive arguments middle = .ok value after) :
    Gives environment (.ofList (.symbol primitive.symbol :: operands)) state value after := by
  have hname : namesForm? (.symbol primitive.symbol) = none := by cases primitive <;> decide
  exact gives_call hname (gives_symbol hbound) rfl hoperands (answers_primitive h)

end Evaluator

end Lisplet
