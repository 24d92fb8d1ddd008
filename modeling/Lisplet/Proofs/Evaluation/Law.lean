import Lisplet.Session

namespace Lisplet

/-! Evaluation is put together from few effects. A relation between computations that each effect
respects, and that sequencing respects, therefore relates evaluation to itself. Such a relation is a
law; what a single layer of evaluation does is gone through once, for all laws. -/

namespace Eval

def Returns (computation : Eval α) (value : α) : Prop :=
  ∃ state after, computation state = .ok value after

theorem bind_ok {first : Eval α} {next : α → Eval β} {state after : State} {value : α}
    (h : first state = .ok value after) : (first >>= next) state = next value after := by
  change EStateM.bind first next state = _
  simp only [EStateM.bind, h]

theorem bind_error {first : Eval α} {next : α → Eval β} {state after : State} {halt : Halt}
    (h : first state = .error halt after) : (first >>= next) state = .error halt after := by
  change EStateM.bind first next state = _
  simp only [EStateM.bind, h]

theorem bind_eq_ok_iff {first : Eval α} {next : α → Eval β} {state after : State} {result : β} :
    (first >>= next) state = .ok result after ↔
      ∃ value middle, first state = .ok value middle ∧ next value middle = .ok result after := by
  cases hfirst : first state with
  | error halt middle => simp [bind_error hfirst]
  | ok value middle =>
      rw [bind_ok hfirst]
      constructor
      · exact fun h => ⟨value, middle, rfl, h⟩
      · rintro ⟨_, _, hsame, h⟩
        cases hsame
        exact h

/-- Marks a form as being applied until its value is there. -/
def applying (head : Value) (body : Eval Value) : Eval Value := do
  push head
  let value ← body
  pop
  return value

structure Law where
  Holds : {α : Type} → Eval α → Eval α → Prop
  /-- Which head may be marked while which computation runs. -/
  Marks : Value → Eval Value → Prop
  pure : ∀ {α : Type} (value : α), Holds (Pure.pure value) (Pure.pure value)
  throw : ∀ {α : Type} (halt : Halt), Holds (throw halt : Eval α) (throw halt)
  bind : ∀ {α β : Type} {first first' : Eval α} {next next' : α → Eval β},
    Holds first first' → (∀ value, Returns first value → Holds (next value) (next' value)) →
      Holds (first >>= next) (first' >>= next')
  /-- Everything but the symbols, the stack and the loads may be looked at. -/
  get : ∀ {α : Type} {next next' : State → Eval α},
    (∀ state symbols stack loads, next { state with symbols, stack, loads } = next state) →
    (∀ state symbols stack loads, next' { state with symbols, stack, loads } = next' state) →
    (∀ state, Holds (next state) (next' state)) →
      Holds (MonadState.get >>= next) (MonadState.get >>= next')
  applying : ∀ {head : Value} {body body' : Eval Value}, Marks head body → Holds body body' →
    Holds (applying head body) (applying head body')
  print : ∀ text, Holds (print text) (print text)
  intern : ∀ symbols, Holds (intern symbols) (intern symbols)
  recordLoad : ∀ path : String,
    Holds (modify fun state => { state with loads := path :: state.loads } : Eval PUnit)
      (modify fun state => { state with loads := path :: state.loads })
  define : ∀ key value, Holds (define key value) (define key value)
  assign : ∀ environment key value,
    Holds (assign environment key value) (assign environment key value)
  extend : ∀ environment frame, Holds (extend environment frame) (extend environment frame)
  newClosure : ∀ kind parameters body scope,
    Holds (newClosure kind parameters body scope) (newClosure kind parameters body scope)
  nameClosure : ∀ name value, Holds (nameClosure name value) (nameClosure name value)

namespace Law

variable (law : Law)

theorem fail (error : Error) : law.Holds (Eval.fail error : Eval α) (Eval.fail error) :=
  law.throw _

theorem ofOption (error : Error) (value : Option α) :
    law.Holds (Eval.ofOption error value) (Eval.ofOption error value) := by
  cases value with
  | none => exact law.fail error
  | some value => exact law.pure value

theorem ofExcept (value : Except Error α) :
    law.Holds (Eval.ofExcept value) (Eval.ofExcept value) := by
  cases value with
  | error error => exact law.fail error
  | ok value => exact law.pure value

theorem checkArity (name : String) (arity : Arity) (count : Nat) :
    law.Holds (Eval.checkArity name arity count) (Eval.checkArity name arity count) := by
  unfold Eval.checkArity
  split
  · exact law.pure _
  · exact law.fail _

theorem lookup (environment : Environment) (key : Symbol) :
    law.Holds (Eval.lookup environment key) (Eval.lookup environment key) :=
  law.get (fun _ _ _ _ => rfl) (fun _ _ _ _ => rfl) fun _ => law.ofOption _ _

variable {law}

section Expressions

variable {eval eval' : Value → Eval Value}

theorem evalAll (heval : ∀ value, law.Holds (eval value) (eval' value)) (result : Value)
    (expressions : List Value) :
    law.Holds (Closure.evalAll eval result expressions)
      (Closure.evalAll eval' result expressions) := by
  induction expressions generalizing result with
  | nil => exact law.pure result
  | cons expression rest ih => exact law.bind (heval expression) fun value _ => ih value

theorem evalEach (heval : ∀ value, law.Holds (eval value) (eval' value))
    (expressions : List Value) :
    law.Holds (Evaluator.evalEach eval expressions) (Evaluator.evalEach eval' expressions) := by
  induction expressions with
  | nil => exact law.pure []
  | cons expression rest ih =>
      exact law.bind (heval expression) fun _ _ => law.bind ih fun _ _ => law.pure _

theorem operand (sugar : Sugar) (rest : Value) :
    law.Holds (Template.operand sugar rest) (Template.operand sugar rest) := by
  refine law.bind (law.ofOption _ _) fun operands _ => ?_
  split
  · exact law.pure _
  · exact law.fail _

theorem splice (heval : ∀ value, law.Holds (eval value) (eval' value)) (rest : Value) :
    law.Holds (Template.splice eval rest) (Template.splice eval' rest) :=
  law.bind (operand _ _) fun _ _ => law.bind (heval _) fun _ _ => law.ofOption _ _

mutual

theorem element (heval : ∀ value, law.Holds (eval value) (eval' value)) :
    ∀ template, law.Holds (Template.element eval template) (Template.element eval' template)
  | .cons first rest => by
      simp only [Template.element]
      split
      · exact law.bind (operand _ _) fun _ _ => law.bind (heval _) fun _ _ => law.pure _
      · exact splice heval rest
      · exact law.bind (element heval first) fun _ _ =>
          law.bind (following heval rest) fun _ _ => law.pure _
  | .nil | .bool _ | .int _ | .float _ | .str _ | .symbol _ | .keyword _ | .regex _ | .emptyList
  | .closure _ _ _ _ _ | .primitive _ | .special _ => law.pure _

theorem following (heval : ∀ value, law.Holds (eval value) (eval' value)) :
    ∀ template, law.Holds (Template.following eval template) (Template.following eval' template)
  | .cons first rest => by
      simp only [Template.following]
      exact law.bind (element heval first) fun _ _ =>
        law.bind (following heval rest) fun _ _ => law.pure _
  | .nil | .bool _ | .int _ | .float _ | .str _ | .symbol _ | .keyword _ | .regex _ | .emptyList
  | .closure _ _ _ _ _ | .primitive _ | .special _ => law.pure _

end

theorem expand (heval : ∀ value, law.Holds (eval value) (eval' value)) (template : Value) :
    law.Holds (Template.expand eval template) (Template.expand eval' template) := by
  refine law.bind (element heval template) fun values _ => ?_
  split
  · exact law.pure _
  · exact law.fail _

end Expressions

theorem invoke {eval eval' : Environment → Value → Eval Value}
    (heval : ∀ environment value, law.Holds (eval environment value) (eval' environment value))
    (closure : Closure) (arguments : List Value) :
    law.Holds (closure.invoke eval arguments) (closure.invoke eval' arguments) := by
  refine law.get (fun _ _ _ _ => rfl) (fun _ _ _ _ => rfl) fun state => ?_
  refine law.bind (law.checkArity _ _ _) fun _ _ => ?_
  exact law.bind (law.extend _ _) fun environment _ => evalAll (heval environment) _ _

theorem target (form : SpecialForm) (value : Value) :
    law.Holds (Evaluator.target form value) (Evaluator.target form value) := by
  cases value with
  | symbol symbol => exact law.pure symbol
  | _ => exact law.fail _

theorem makeClosure (kind : ClosureKind) (environment : Environment) (operands : List Value) :
    law.Holds (Evaluator.makeClosure kind environment operands)
      (Evaluator.makeClosure kind environment operands) := by
  unfold Evaluator.makeClosure
  split
  · exact law.bind (law.ofExcept _) fun _ _ => law.newClosure _ _ _ _
  · exact law.fail _

theorem operationName (value : Value) :
    law.Holds (Evaluator.operationName value) (Evaluator.operationName value) := by
  cases value with
  | keyword name => exact law.pure name
  | symbol symbol => exact law.pure symbol.name
  | str text => exact law.pure text
  | _ => exact law.fail _

theorem concatItems (values : List Value) :
    law.Holds (Evaluator.concatItems values) (Evaluator.concatItems values) := by
  induction values with
  | nil => exact law.pure []
  | cons value rest ih =>
      exact law.bind (law.ofOption _ _) fun _ _ => law.bind ih fun _ _ => law.pure _

theorem printEach (values : List Value) :
    law.Holds (Evaluator.printEach values) (Evaluator.printEach values) := by
  induction values with
  | nil => exact law.pure ()
  | cons value rest ih =>
      refine law.get (fun _ _ _ _ => rfl) (fun _ _ _ _ => rfl) fun state => ?_
      exact law.bind (law.print _) fun _ _ => ih

theorem isEmpty (value : Value) :
    law.Holds (Evaluator.isEmpty value) (Evaluator.isEmpty value) := by
  cases value with
  | emptyList => exact law.pure _
  | cons first rest => exact law.pure _
  | str text => exact law.pure _
  | _ => exact law.fail _

section Layer

variable [RegexEngine]

/-- Two layers that the law relates, the first of which marks only what it may. -/
structure Respects (law : Law) (inner inner' : Evaluator) : Prop where
  eval : ∀ environment value,
    law.Holds (inner.eval environment value) (inner'.eval environment value)
  apply : ∀ callable arguments,
    law.Holds (inner.apply callable arguments) (inner'.apply callable arguments)
  marks : ∀ environment head operator operands, Returns (inner.eval environment head) operator →
    law.Marks head (Evaluator.applyForm inner environment head operator operands)

variable {inner inner' : Evaluator}

theorem receiver (h : law.Respects inner inner') (environment : Environment) (value : Value) :
    law.Holds (Evaluator.receiver inner environment value)
      (Evaluator.receiver inner' environment value) := by
  cases value with
  | symbol symbol => exact law.get (fun _ _ _ _ => rfl) (fun _ _ _ _ => rfl) fun _ => law.pure _
  | cons first rest => exact h.eval environment (.cons first rest)
  | _ => exact law.pure _

theorem evalSpecial (h : law.Respects inner inner') (environment : Environment)
    (form : SpecialForm) (operands : List Value) :
    law.Holds (Evaluator.evalSpecial inner environment form operands)
      (Evaluator.evalSpecial inner' environment form operands) := by
  have heval := h.eval environment
  unfold Evaluator.evalSpecial
  split
  · exact law.pure _
  · exact expand heval _
  · refine law.bind (target _ _) fun key _ => law.bind (heval _) fun value _ => ?_
    exact law.bind (law.nameClosure key value) fun _ _ =>
      law.bind (law.define key value) fun _ _ => law.pure value
  · refine law.bind (target _ _) fun key _ => law.bind (heval _) fun value _ => ?_
    exact law.bind (law.assign environment key value) fun _ _ => law.pure value
  · exact makeClosure _ _ _
  · exact makeClosure _ _ _
  · refine law.bind (heval _) fun condition _ => ?_
    split
    · exact heval _
    · exact law.pure _
  · refine law.bind (heval _) fun condition _ => ?_
    split
    · exact heval _
    · exact heval _
  · exact receiver h environment _
  · refine law.bind (receiver h environment _) fun value _ => ?_
    refine law.bind (heval _) fun operation _ => ?_
    refine law.bind (operationName operation) fun name _ =>
      law.bind (evalEach heval _) fun arguments _ => ?_
    exact law.get (fun _ _ _ _ => rfl) (fun _ _ _ _ => rfl) fun _ => law.ofExcept _
  all_goals exact law.fail _

theorem expandOnce (h : law.Respects inner inner') (form : Value) :
    law.Holds (Evaluator.expandOnce inner form) (Evaluator.expandOnce inner' form) := by
  refine law.get (fun _ _ _ _ => rfl) (fun _ _ _ _ => rfl) fun state => ?_
  split
  · exact law.bind (law.ofOption _ _) fun _ _ => invoke h.eval _ _
  · exact law.pure _

theorem loadText (h : law.Respects inner inner') (text : String) :
    law.Holds (Evaluator.loadText inner text) (Evaluator.loadText inner' text) := by
  refine law.bind (law.intern _) fun _ _ => law.bind (law.ofExcept _) fun forms _ => ?_
  exact law.bind (evalAll (h.eval .global) _ forms) fun _ _ => law.pure _

theorem loadFile (h : law.Respects inner inner') (path : String) :
    law.Holds (Evaluator.loadFile inner path) (Evaluator.loadFile inner' path) := by
  refine law.bind (law.recordLoad path) fun _ _ => ?_
  refine law.get (fun _ _ _ _ => rfl) (fun _ _ _ _ => rfl) fun state => ?_
  split
  · exact law.fail _
  · exact loadText h _

theorem runPrimitive (h : law.Respects inner inner') (primitive : Primitive)
    (arguments : List Value) :
    law.Holds (Evaluator.runPrimitive inner primitive arguments)
      (Evaluator.runPrimitive inner' primitive arguments) := by
  unfold Evaluator.runPrimitive
  split
  · exact law.bind (printEach _) fun _ _ => law.pure _
  · refine law.get (fun _ _ _ _ => rfl) (fun _ _ _ _ => rfl) fun state => ?_
    exact law.bind (law.print _) fun _ _ => law.pure _
  · exact law.pure _
  · exact law.ofOption _ _
  · exact law.ofOption _ _
  · exact law.bind (concatItems _) fun _ _ => law.pure _
  · exact law.pure _
  · exact law.pure _
  · exact isEmpty _
  · exact law.pure _
  · exact law.bind (law.ofOption _ _) fun _ _ => h.apply _ _
  · exact expandOnce h _
  · exact h.eval .global _
  · refine law.get (fun _ _ _ _ => rfl) (fun _ _ _ _ => rfl) fun state => ?_
    exact loadFile h _
  all_goals exact law.fail _

theorem applyValue (h : law.Respects inner inner') (callable : Value) (arguments : List Value) :
    law.Holds (Evaluator.applyValue inner callable arguments)
      (Evaluator.applyValue inner' callable arguments) := by
  cases callable with
  | closure id kind parameters body scope => exact invoke h.eval _ _
  | primitive primitive => exact runPrimitive h primitive arguments
  | _ => exact law.fail _

theorem applyForm (h : law.Respects inner inner') (environment : Environment)
    (head operator : Value) (operands : List Value) :
    law.Holds (Evaluator.applyForm inner environment head operator operands)
      (Evaluator.applyForm inner' environment head operator operands) := by
  unfold Evaluator.applyForm
  split
  · exact evalSpecial h environment _ operands
  · exact law.bind (invoke h.eval _ _) fun _ _ => h.eval environment _
  · exact law.bind (evalEach (h.eval environment) operands) fun _ _ => applyValue h _ _

theorem evalValue (h : law.Respects inner inner') (environment : Environment) (value : Value) :
    law.Holds (Evaluator.evalValue inner environment value)
      (Evaluator.evalValue inner' environment value) := by
  cases value with
  | symbol symbol => exact law.lookup environment symbol
  | cons head rest =>
      refine law.bind (h.eval environment head) fun operator hoperator => ?_
      refine law.bind (law.ofOption _ _) fun operands _ => ?_
      exact law.applying (h.marks environment head operator operands hoperator)
        (applyForm h environment head operator operands)
  | _ => exact law.pure _

end Layer

variable [RegexEngine]

theorem respects_layers (law : Law)
    (hmarks : ∀ fuel environment head operator operands,
      Returns (Evaluator.evalAt fuel environment head) operator →
        law.Marks head
          (Evaluator.applyForm (Evaluator.layers fuel) environment head operator operands))
    (fuel : Nat) :
    law.Respects (Evaluator.layers fuel) (Evaluator.layers fuel) := by
  induction fuel with
  | zero => exact ⟨fun _ _ => law.throw _, fun _ _ => law.throw _, hmarks 0⟩
  | succ fuel ih =>
      exact ⟨fun environment value => evalValue ih environment value,
        fun callable arguments => applyValue ih callable arguments, hmarks (fuel + 1)⟩

end Law

end Eval

inductive Request where
  | eval (environment : Environment) (datum : Value)
  | apply (callable : Value) (arguments : List Value)
  | expand (form : Value)
  | load (path : String)

namespace Request

variable [RegexEngine]

def run (fuel : Nat) : Request → Eval Value
  | eval environment datum => Evaluator.evalAt fuel environment datum
  | apply callable arguments => Evaluator.applyAt fuel callable arguments
  | expand form => Evaluator.expandOnce (Evaluator.layers fuel) form
  | load path => Evaluator.loadFile (Evaluator.layers fuel) path

theorem law_run {law : Eval.Law} {fuel fuel' : Nat}
    (h : law.Respects (Evaluator.layers fuel) (Evaluator.layers fuel')) (request : Request) :
    law.Holds (request.run fuel) (request.run fuel') := by
  cases request with
  | eval environment datum => exact h.eval environment datum
  | apply callable arguments => exact h.apply callable arguments
  | expand form => exact Eval.Law.expandOnce h form
  | load path => exact Eval.Law.loadFile h path

end Request

end Lisplet
