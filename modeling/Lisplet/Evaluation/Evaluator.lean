import Lisplet.Evaluation.Closure
import Lisplet.Evaluation.Template
import Lisplet.Operation.Basic
import Lisplet.Reader.Datum

namespace Lisplet

/-! Evaluation. Each layer is an ordinary function of the layer below it, and the number of layers
bounds how deep evaluation may go. -/

structure Evaluator where
  eval : Environment → Value → Eval Value
  apply : Value → List Value → Eval Value

namespace Evaluator

def evalEach (eval : Value → Eval Value) : List Value → Eval (List Value)
  | [] => return []
  | expression :: rest => do
      let value ← eval expression
      return value :: (← evalEach eval rest)

def target (form : SpecialForm) : Value → Eval Symbol
  | .symbol symbol => return symbol
  | value => Eval.fail (.targetNotSymbol form value)

def makeClosure (kind : ClosureKind) (environment : Environment) :
    List Value → Eval Value
  | parameters :: first :: rest => do
      let parameters ← Eval.ofExcept (Parameters.ofValue parameters)
      Eval.newClosure kind parameters (Value.ofList (first :: rest)) environment
  | _ => Eval.fail (.missingBody kind)

/-- A bound symbol stands for its value, an unbound one for itself. -/
def receiver (inner : Evaluator) (environment : Environment) : Value → Eval Value
  | .symbol symbol => do
      return ((← get).store.get? environment symbol).getD (.symbol symbol)
  | .cons first rest => inner.eval environment (.cons first rest)
  | value => return value

def operationName : Value → Eval String
  | .keyword name => return name
  | .symbol symbol => return symbol.name
  | .str text => return text
  | value => Eval.fail (.badOperationName value)

def wrongArity (form : SpecialForm) (arity : Arity) (operands : List Value) : Eval α :=
  Eval.fail (.wrongArity form.name arity operands.length)

variable [RegexEngine]

def evalSpecial (inner : Evaluator) (environment : Environment) (form : SpecialForm)
    (operands : List Value) : Eval Value :=
  match form, operands with
  | .quote, [datum] => return datum
  | .quasiquote, [template] => Template.expand (inner.eval environment) template
  | .define, [key, expression] => do
      let key ← target .define key
      let value ← inner.eval environment expression
      Eval.nameClosure key value
      Eval.define key value
      return value
  | .assign, [key, expression] => do
      let key ← target .assign key
      let value ← inner.eval environment expression
      Eval.assign environment key value
      return value
  | .function, operands => makeClosure .function environment operands
  | .expander, operands => makeClosure .expander environment operands
  | .branch, [condition, consequence] => do
      if (← inner.eval environment condition).truthy then inner.eval environment consequence
      else return .nil
  | .branch, [condition, consequence, alternative] => do
      if (← inner.eval environment condition).truthy then inner.eval environment consequence
      else inner.eval environment alternative
  | .send, [expression] => receiver inner environment expression
  | .send, expression :: operation :: rest => do
      let value ← receiver inner environment expression
      let name ← operationName (← inner.eval environment operation)
      let arguments ← evalEach (inner.eval environment) rest
      Eval.ofExcept (send (← get).names name value arguments)
  | .send, [] => wrongArity .send (.atLeast 1) operands
  | .branch, _ => wrongArity .branch (.between 2 3) operands
  | form@(.define), _ | form@(.assign), _ => wrongArity form (.exactly 2) operands
  | form, _ => wrongArity form (.exactly 1) operands

/-- The expander that a form calls: the value of its head in the global frame, or its head. -/
def expander? (state : State) : Value → Option Closure
  | .cons head _ =>
      let value :=
        match head with
        | .symbol symbol => (state.store.globals.get? symbol).getD .nil
        | value => value
      value.closure?.filter Closure.isExpander
  | _ => none

def expandOnce (inner : Evaluator) (form : Value) : Eval Value := do
  match form, expander? (← get) form with
  | .cons _ rest, some closure => do
      let operands ← Eval.ofOption .improperForm rest.toList?
      closure.invoke inner.eval operands
  | _, _ => return form

/-- Reads all of a text before any of it is evaluated. -/
def loadText (inner : Evaluator) (text : String) : Eval Value := do
  let reading := Reader.readAll text.toList
  Eval.intern reading.met
  let forms ← Eval.ofExcept reading.outcome
  let _ ← Closure.evalAll (inner.eval .global) .nil forms
  return .bool true

def loadFile (inner : Evaluator) (path : String) : Eval Value := do
  modify fun state => { state with loads := path :: state.loads }
  match (← get).files.read path with
  | .error error => Eval.fail (.file error)
  | .ok text => loadText inner text

def items (primitive : Primitive) (value : Value) : Eval (List Value) :=
  Eval.ofOption (.expectedList primitive value) value.toList?

def concatItems : List Value → Eval (List Value)
  | [] => return []
  | value :: rest => do
      let front ← items .concat value
      return front ++ (← concatItems rest)

def printEach : List Value → Eval Unit
  | [] => return ()
  | value :: rest => do
      Eval.print (value.inspect (← get).names ++ "\n")
      printEach rest

def isEmpty : Value → Eval Value
  | .emptyList => return .bool true
  | .cons _ _ => return .bool false
  | .str text => return .bool text.isEmpty
  | value => Eval.fail (.expectedList .isEmpty value)

def runPrimitive (inner : Evaluator) (primitive : Primitive) (arguments : List Value) :
    Eval Value :=
  match primitive, arguments with
  | .print, values => do
      printEach values
      return Value.ofList values
  | .puts, values => do
      let names := (← get).names
      Eval.print (" ".intercalate (values.map (Value.display names)) ++ "\n")
      return .nil
  | .cons, [first, rest] => return .cons first rest
  | .first, [value] => Eval.ofOption (.expectedList .first value) value.first?
  | .rest, [value] => Eval.ofOption (.expectedList .rest value) value.rest?
  | .concat, values => do return Value.ofList (← concatItems values)
  | .list, values => return Value.ofList values
  | .isList, [value] => return .bool value.isList
  | .isEmpty, [value] => isEmpty value
  | .equal, [left, right] => return .bool (left.same right)
  | .apply, callable :: second :: rest => do
      let arguments := second :: rest
      let last ← items .apply (arguments.getLastD .nil)
      inner.apply callable (arguments.dropLast ++ last)
  | .expand, [form] => expandOnce inner form
  | .eval, [datum] => inner.eval .global datum
  | .load, [.str path] => do loadFile inner ((← get).files.expand path)
  | .load, [value] => Eval.fail (.unsupported Primitive.load.name value.typeName none)
  | .exit, [] => Eval.fail .exit
  | primitive, arguments =>
      Eval.fail (.wrongArity primitive.name primitive.arity arguments.length)

/-- Calls a value on arguments. An expander called this way gives its expansion. -/
def applyValue (inner : Evaluator) (callable : Value) (arguments : List Value) : Eval Value :=
  match callable with
  | .closure id kind parameters body scope =>
      Closure.invoke inner.eval ⟨id, kind, parameters, body, scope⟩ arguments
  | .primitive primitive => runPrimitive inner primitive arguments
  | .special form => Eval.fail (.specialFormAsValue form)
  | value => Eval.fail (.notCallable value)

/-- A form whose head has been evaluated. The name of a special form counts, not its value. -/
def applyForm (inner : Evaluator) (environment : Environment) (head operator : Value)
    (operands : List Value) : Eval Value :=
  match head.symbol?.bind SpecialForm.ofSymbol?, operator with
  | some form, _ => evalSpecial inner environment form operands
  | none, .closure id .expander parameters body scope => do
      let expansion ←
        Closure.invoke inner.eval ⟨id, .expander, parameters, body, scope⟩ operands
      inner.eval environment expansion
  | none, operator => do
      let arguments ← evalEach (inner.eval environment) operands
      applyValue inner operator arguments

/-- A form that fails leaves its head on the stack. -/
def evalValue (inner : Evaluator) (environment : Environment) : Value → Eval Value
  | .symbol symbol => Eval.lookup environment symbol
  | .cons head rest => do
      let operator ← inner.eval environment head
      let operands ← Eval.ofOption .improperForm rest.toList?
      Eval.push head
      let value ← applyForm inner environment head operator operands
      Eval.pop
      return value
  | value => return value

mutual

def evalAt : Nat → Environment → Value → Eval Value
  | 0, _, _ => throw .outOfFuel
  | fuel + 1, environment, value => evalValue ⟨evalAt fuel, applyAt fuel⟩ environment value

def applyAt : Nat → Value → List Value → Eval Value
  | 0, _, _ => throw .outOfFuel
  | fuel + 1, callable, arguments => applyValue ⟨evalAt fuel, applyAt fuel⟩ callable arguments

end

def layers (fuel : Nat) : Evaluator :=
  ⟨evalAt fuel, applyAt fuel⟩

@[simp] theorem evalAt_zero (environment : Environment) (value : Value) :
    evalAt 0 environment value = throw .outOfFuel := rfl

@[simp] theorem evalAt_succ (fuel : Nat) (environment : Environment) (value : Value) :
    evalAt (fuel + 1) environment value = evalValue (layers fuel) environment value := rfl

@[simp] theorem applyAt_succ (fuel : Nat) (callable : Value) (arguments : List Value) :
    applyAt (fuel + 1) callable arguments = applyValue (layers fuel) callable arguments := rfl

end Evaluator

end Lisplet
