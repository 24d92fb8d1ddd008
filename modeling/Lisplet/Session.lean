import Lisplet.Evaluation.Evaluator

namespace Lisplet

/-! An interpreter as its user meets it: texts and files go in, values and failures come out. -/

namespace Session

/-- So many layers that memory runs out first. -/
def fuel : Nat :=
  0x10000000000

variable [RegexEngine]

def evaluator : Evaluator :=
  Evaluator.layers fuel

def eval (datum : Value) : Eval Value :=
  evaluator.eval .global datum

def apply (callable : Value) (arguments : List Value) : Eval Value :=
  evaluator.apply callable arguments

def expandOnce (form : Value) : Eval Value :=
  Evaluator.expandOnce evaluator form

def loadFile (path : String) : Eval Value :=
  Evaluator.loadFile evaluator path

def loadText (text : String) : Eval Value :=
  Evaluator.loadText evaluator text

/-- Reads and evaluates form by form; `result` is the value of the form before. -/
def evalForms : Nat → Value → List Char → Eval Value
  | 0, result, _ => return result
  | forms + 1, result, text => do
      let reading := Reader.read text
      Eval.intern reading.met
      match ← Eval.ofExcept reading.outcome with
      | none => return result
      | some datum => evalForms forms (← eval datum) reading.rest

/-- The value of the last form of a text, or `nil` if there is none. -/
def evalText (text : String) : Eval Value :=
  evalForms (Reader.enough text.toList) .nil text.toList

def expandText (text : String) : Eval Value := do
  let reading := Reader.require text.toList
  Eval.intern reading.met
  expandOnce (← Eval.ofExcept reading.outcome)

end Session

end Lisplet
