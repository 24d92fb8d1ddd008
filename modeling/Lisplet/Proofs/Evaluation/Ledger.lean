import Lisplet.Proofs.Evaluation.History

namespace Lisplet

/-! Evaluation that keeps a ledger: whenever a definition form has its value, its target and the
value are entered. The ledger is never looked at, so what is evaluated does not depend on it; and
the entries account for every name that a closure is given. -/

/-- A definition that was evaluated: the symbol it defines and the value of its expression. -/
structure Ledger.Entry where
  target : Symbol
  value : Value

structure Ledger where
  state : State
  entries : List Ledger.Entry

abbrev Recorded := EStateM Halt Ledger

namespace Recorded

def withEntries (entries : List Ledger.Entry) :
    EStateM.Result Halt State α → EStateM.Result Halt Ledger α
  | .ok value state => .ok value ⟨state, entries⟩
  | .error halt state => .error halt ⟨state, entries⟩

def silent (computation : Eval α) : Recorded α := fun ledger =>
  withEntries ledger.entries (computation ledger.state)

def enter (target : Symbol) (value : Value) : Recorded PUnit :=
  modify fun ledger => { ledger with entries := ledger.entries ++ [⟨target, value⟩] }

end Recorded

structure Recorder where
  eval : Environment → Value → Recorded Value
  apply : Value → List Value → Recorded Value

namespace Recorder

open Recorded (silent enter)

def evalAll (eval : Value → Recorded Value) : Value → List Value → Recorded Value
  | result, [] => return result
  | _, expression :: rest => do evalAll eval (← eval expression) rest

def evalEach (eval : Value → Recorded Value) : List Value → Recorded (List Value)
  | [] => return []
  | expression :: rest => do
      let value ← eval expression
      return value :: (← evalEach eval rest)

def invoke (eval : Environment → Value → Recorded Value) (closure : Closure)
    (arguments : List Value) : Recorded Value := do
  let names := (← silent get).names
  silent (Eval.checkArity (closure.callName names) closure.parameters.arity arguments.length)
  let environment ← silent (Eval.extend closure.scope (closure.parameters.frame arguments))
  evalAll (eval environment) .nil closure.body.items

def splice (eval : Value → Recorded Value) (rest : Value) : Recorded (List Value) := do
  let value ← eval (← silent (Template.operand .splice rest))
  silent (Eval.ofOption (.spliceNotList value) value.toList?)

mutual

def element (eval : Value → Recorded Value) : Value → Recorded (List Value)
  | .cons first rest =>
      match Template.mark? first with
      | some .unquote => do return [← eval (← silent (Template.operand .unquote rest))]
      | some .splice => splice eval rest
      | _ => do
          let front ← element eval first
          let back ← following eval rest
          return [Value.ofDotted front back]
  | value => return [value]

def following (eval : Value → Recorded Value) : Value → Recorded Value
  | .cons first rest => do
      let front ← element eval first
      let back ← following eval rest
      return Value.ofDotted front back
  | value => return value

end

def expand (eval : Value → Recorded Value) (template : Value) : Recorded Value := do
  let values ← element eval template
  match Template.isSplice template, values with
  | false, [value] => return value
  | _, _ => silent (Eval.fail .spliceOutsideList)

/-! Special forms. Only a definition makes an entry. -/

variable [RegexEngine]

def receiver (inner : Recorder) (environment : Environment) : Value → Recorded Value
  | .cons first rest => inner.eval environment (.cons first rest)
  | value => silent (Evaluator.receiver (Evaluator.layers 0) environment value)

def evalSpecial (inner : Recorder) (environment : Environment) (form : SpecialForm)
    (operands : List Value) : Recorded Value :=
  match form, operands with
  | .quote, [datum] => return datum
  | .quasiquote, [template] => expand (inner.eval environment) template
  | .define, [key, expression] => do
      let key ← silent (Evaluator.target .define key)
      let value ← inner.eval environment expression
      enter key value
      silent (Eval.nameClosure key value)
      silent (Eval.define key value)
      return value
  | .assign, [key, expression] => do
      let key ← silent (Evaluator.target .assign key)
      let value ← inner.eval environment expression
      silent (Eval.assign environment key value)
      return value
  | .function, operands => silent (Evaluator.makeClosure .function environment operands)
  | .expander, operands => silent (Evaluator.makeClosure .expander environment operands)
  | .branch, [condition, consequence] => do
      if (← inner.eval environment condition).truthy then inner.eval environment consequence
      else return .nil
  | .branch, [condition, consequence, alternative] => do
      if (← inner.eval environment condition).truthy then inner.eval environment consequence
      else inner.eval environment alternative
  | .send, [expression] => receiver inner environment expression
  | .send, expression :: operation :: rest => do
      let value ← receiver inner environment expression
      let name ← silent (Evaluator.operationName (← inner.eval environment operation))
      let arguments ← evalEach (inner.eval environment) rest
      let names := (← silent get).names
      silent (Eval.ofExcept (send names name value arguments))
  | .send, [] => silent (Evaluator.wrongArity .send (.atLeast 1) operands)
  | .branch, _ => silent (Evaluator.wrongArity .branch (.between 2 3) operands)
  | form@(.define), _ | form@(.assign), _ =>
      silent (Evaluator.wrongArity form (.exactly 2) operands)
  | form, _ => silent (Evaluator.wrongArity form (.exactly 1) operands)

def expandOnce (inner : Recorder) (form : Value) : Recorded Value := do
  match form, Evaluator.expander? (← silent get) form with
  | .cons _ rest, some closure => do
      let operands ← silent (Eval.ofOption .improperForm rest.toList?)
      invoke inner.eval closure operands
  | _, _ => return form

def loadText (inner : Recorder) (text : String) : Recorded Value := do
  let reading := Reader.readAll text.toList
  silent (Eval.intern reading.met)
  let forms ← silent (Eval.ofExcept reading.outcome)
  let _ ← evalAll (inner.eval .global) .nil forms
  return .bool true

def loadFile (inner : Recorder) (path : String) : Recorded Value := do
  silent (modify fun state => { state with loads := path :: state.loads })
  match (← silent get).files.read path with
  | .error error => silent (Eval.fail (.file error))
  | .ok text => loadText inner text

def runPrimitive (inner : Recorder) (primitive : Primitive) (arguments : List Value) :
    Recorded Value :=
  match primitive, arguments with
  | .apply, callable :: second :: rest => do
      let arguments := second :: rest
      let last ← silent (Evaluator.items .apply (arguments.getLastD .nil))
      inner.apply callable (arguments.dropLast ++ last)
  | .expand, [form] => expandOnce inner form
  | .eval, [datum] => inner.eval .global datum
  | .load, [.str path] => do loadFile inner ((← silent get).files.expand path)
  | primitive, arguments =>
      silent (Evaluator.runPrimitive (Evaluator.layers 0) primitive arguments)

def applyValue (inner : Recorder) (callable : Value) (arguments : List Value) : Recorded Value :=
  match callable with
  | .closure id kind parameters body scope =>
      invoke inner.eval ⟨id, kind, parameters, body, scope⟩ arguments
  | .primitive primitive => runPrimitive inner primitive arguments
  | .special form => silent (Eval.fail (.specialFormAsValue form))
  | value => silent (Eval.fail (.notCallable value))

def applyForm (inner : Recorder) (environment : Environment) (head operator : Value)
    (operands : List Value) : Recorded Value :=
  match head.symbol?.bind SpecialForm.ofSymbol?, operator with
  | some form, _ => evalSpecial inner environment form operands
  | none, .closure id .expander parameters body scope => do
      let expansion ← invoke inner.eval ⟨id, .expander, parameters, body, scope⟩ operands
      inner.eval environment expansion
  | none, operator => do
      let arguments ← evalEach (inner.eval environment) operands
      applyValue inner operator arguments

def evalValue (inner : Recorder) (environment : Environment) : Value → Recorded Value
  | .symbol symbol => silent (Eval.lookup environment symbol)
  | .cons head rest => do
      let operator ← inner.eval environment head
      let operands ← silent (Eval.ofOption .improperForm rest.toList?)
      silent (Eval.push head)
      let value ← applyForm inner environment head operator operands
      silent Eval.pop
      return value
  | value => return value

mutual

def evalAt : Nat → Environment → Value → Recorded Value
  | 0, _, _ => throw .outOfFuel
  | fuel + 1, environment, value => evalValue ⟨evalAt fuel, applyAt fuel⟩ environment value

def applyAt : Nat → Value → List Value → Recorded Value
  | 0, _, _ => throw .outOfFuel
  | fuel + 1, callable, arguments => applyValue ⟨evalAt fuel, applyAt fuel⟩ callable arguments

end

def layers (fuel : Nat) : Recorder :=
  ⟨evalAt fuel, applyAt fuel⟩

end Recorder

/-! What the entries say about names. -/

namespace Ledger

def Entry.isOf (id : Nat) (entry : Entry) : Bool :=
  entry.value.closure?.any fun closure => closure.id == id

/-- The target of the first definition whose value was the closure with the id. -/
def nameFor (entries : List Entry) (id : Nat) : Option Symbol :=
  (entries.find? (Entry.isOf id)).map Entry.target

@[simp] theorem nameFor_nil (id : Nat) : nameFor [] id = none := rfl

theorem nameFor_append (front back : List Entry) (id : Nat) :
    nameFor (front ++ back) id = (nameFor front id).or (nameFor back id) := by
  rw [nameFor, List.find?_append, Option.map_or]
  rfl

end Ledger

namespace ClosureNames

/-- Closures there were before kept their names, and the entries gave the others theirs. -/
structure Explained (entries : List Ledger.Entry) (before after : ClosureNames) : Prop where
  next : before.next ≤ after.next
  get? : ∀ id < before.next,
    after.get? id = (before.get? id).or (Ledger.nameFor entries id)

namespace Explained

theorem refl (names : ClosureNames) : Explained [] names names :=
  ⟨Nat.le_refl _, fun _ _ => (Option.or_none).symm⟩

theorem trans {front back : List Ledger.Entry} {first second third : ClosureNames}
    (hfirst : Explained front first second) (hsecond : Explained back second third) :
    Explained (front ++ back) first third := by
  refine ⟨Nat.le_trans hfirst.next hsecond.next, fun id hid => ?_⟩
  rw [hsecond.get? id (Nat.lt_of_lt_of_le hid hfirst.next), hfirst.get? id hid, Option.or_assoc,
    Ledger.nameFor_append]

theorem push (names : ClosureNames) : Explained [] names names.push := by
  refine ⟨?_, fun id _ => ?_⟩
  · simp [ClosureNames.push, ClosureNames.next]
  · rw [get?_push, Ledger.nameFor_nil, Option.or_none]

end Explained

end ClosureNames

end Lisplet
