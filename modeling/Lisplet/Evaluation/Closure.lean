import Lisplet.State

namespace Lisplet

/-! Parameter lists, and what a call binds them to. -/

namespace Parameters

def symbolsOf : List Value → Except Error (List Symbol)
  | [] => .ok []
  | .symbol symbol :: rest => (symbolsOf rest).map (symbol :: ·)
  | value :: _ => .error (.parameterNotSymbol value)

/-- At most one ampersand, and only before the last symbol, which then takes the arguments that are
left over. -/
def ofSymbols (symbols : List Symbol) : Except Error Parameters :=
  match symbols.count Symbol.ampersand with
  | 0 => .ok ⟨symbols, none⟩
  | 1 =>
      match symbols.reverse with
      | others :: marker :: positional =>
          if marker = Symbol.ampersand then .ok ⟨positional.reverse, some others⟩
          else .error .misplacedAmpersand
      | _ => .error .misplacedAmpersand
  | count => .error (.tooManyAmpersands count)

def ofValue (value : Value) : Except Error Parameters :=
  match value.toList? with
  | none => .error (.parametersNotList value)
  | some items =>
      match symbolsOf items with
      | .ok symbols => ofSymbols symbols
      | .error error => .error error

def frame (parameters : Parameters) (arguments : List Value) : Frame :=
  let frame := Frame.ofPairs (parameters.positional.zip arguments)
  match parameters.others with
  | none => frame
  | some others =>
      frame.insert others (Value.ofList (arguments.drop parameters.positional.length))

end Parameters

namespace Closure

def isExpander (closure : Closure) : Bool :=
  closure.kind = .expander

def callName (names : ClosureNames) (closure : Closure) : String :=
  match names.get? closure.id with
  | some name => name.name
  | none => closure.kind.name

def evalAll (eval : Value → Eval Value) : Value → List Value → Eval Value
  | result, [] => return result
  | _, expression :: rest => do evalAll eval (← eval expression) rest

/-- Calls a closure: its body is evaluated in a new frame over its scope. For an expander the result
is the expansion. -/
def invoke (eval : Environment → Value → Eval Value) (closure : Closure)
    (arguments : List Value) : Eval Value := do
  Eval.checkArity (closure.callName (← get).names) closure.parameters.arity arguments.length
  let environment ← Eval.extend closure.scope (closure.parameters.frame arguments)
  evalAll (eval environment) .nil closure.body.items

end Closure

end Lisplet
