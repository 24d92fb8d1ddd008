import Lisplet.Error
import Lisplet.Store

namespace Lisplet

/-! The state of an interpreter, and computations on it. A computation that fails keeps what it did
up to then. -/

structure State where
  symbols : SymbolTable
  store : Store
  names : ClosureNames
  /-- The heads of the forms being applied, innermost first. -/
  stack : List Value
  output : String
  files : Files
  /-- The paths that were loaded from, last one first. -/
  loads : List String

inductive Halt where
  | error (error : Error)
  /-- It would have gone deeper than was allowed. -/
  | outOfFuel

abbrev Eval := EStateM Halt State

namespace Eval

def fail (error : Error) : Eval α :=
  throw (.error error)

def ofOption (error : Error) : Option α → Eval α
  | some value => return value
  | none => fail error

def ofExcept : Except Error α → Eval α
  | .ok value => return value
  | .error error => fail error

def checkArity (name : String) (arity : Arity) (count : Nat) : Eval Unit := do
  unless arity.Admits count do fail (.wrongArity name arity count)

def push (head : Value) : Eval Unit :=
  modify fun state => { state with stack := head :: state.stack }

def pop : Eval Unit :=
  modify fun state => { state with stack := state.stack.tail }

def print (text : String) : Eval Unit :=
  modify fun state => { state with output := state.output ++ text }

def intern (symbols : List Symbol) : Eval Unit :=
  modify fun state => { state with symbols := state.symbols.internAll symbols }

def lookup (environment : Environment) (key : Symbol) : Eval Value := do
  ofOption (.undefined key) ((← get).store.get? environment key)

def define (key : Symbol) (value : Value) : Eval Unit :=
  modify fun state => { state with store := state.store.define key value }

def assign (environment : Environment) (key : Symbol) (value : Value) : Eval Unit := do
  let assigned ← modifyGet fun state =>
    match state.store.owner? environment key with
    | some owner => (true, { state with store := state.store.bind owner key value })
    | none => (false, state)
  unless assigned do fail (.unassignable key)

def extend (environment : Environment) (frame : Frame) : Eval Environment :=
  modifyGet fun state =>
    let (environment, store) := state.store.extend environment frame
    (environment, { state with store := store })

def newClosure (kind : ClosureKind) (parameters : Parameters) (body : Value)
    (scope : Environment) : Eval Value :=
  modifyGet fun state =>
    (.closure state.names.next kind parameters body scope, { state with names := state.names.push })

/-- Gives a closure its name, unless it has one. -/
def nameClosure (name : Symbol) (value : Value) : Eval Unit :=
  match value with
  | .closure id _ _ _ _ => modify fun state => { state with names := state.names.assign id name }
  | _ => return ()

end Eval

namespace State

/-- Only the special forms and the primitives are bound. -/
def initial (files : Files) : State :=
  { symbols := SymbolTable.empty.reserve.internAll (Primitive.all.map Primitive.symbol)
    store :=
      { globals := .ofPairs
          (SpecialForm.all.map (fun form => (form.symbol, Value.special form)) ++
            Primitive.all.map (fun primitive => (primitive.symbol, Value.primitive primitive)))
        locals := #[] }
    names := .empty
    stack := []
    output := ""
    files := files
    loads := [] }

def backtrace (state : State) : List String :=
  state.stack.map fun head => "\tin '" ++ head.display state.names ++ "'"

def clearStack (state : State) : State :=
  { state with stack := [] }

end State

end Lisplet
