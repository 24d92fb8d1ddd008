import Lisplet.Symbol
import Lisplet.Arity

namespace Lisplet

/-! What a closure carries: its parameters, its kind, and the scope it was made in. -/

structure Parameters where
  positional : List Symbol
  others : Option Symbol
deriving DecidableEq, Inhabited, Repr

namespace Parameters

def arity (parameters : Parameters) : Arity :=
  match parameters.others with
  | none => .exactly parameters.positional.length
  | some _ => .atLeast parameters.positional.length

def symbols (parameters : Parameters) : List Symbol :=
  match parameters.others with
  | none => parameters.positional
  | some others => parameters.positional ++ [Symbol.ampersand, others]

end Parameters

inductive ClosureKind where
  | function | expander
deriving DecidableEq, Inhabited, Repr

def ClosureKind.name : ClosureKind → String
  | function => "fn"
  | expander => "macro"

/-- The local frames in scope, innermost first; the global frame lies behind all of them. -/
structure Environment where
  locals : List Nat
deriving DecidableEq, Inhabited, Repr

namespace Environment

def global : Environment :=
  ⟨[]⟩

def push (frame : Nat) (environment : Environment) : Environment :=
  ⟨frame :: environment.locals⟩

def depth (environment : Environment) : Nat :=
  environment.locals.length + 1

end Environment

inductive Primitive where
  | print | puts
  | cons | first | rest | concat | list | isList | isEmpty | equal
  | apply | expand | eval | load | exit
deriving DecidableEq, Inhabited, Repr

namespace Primitive

def all : List Primitive :=
  [print, puts, cons, first, rest, concat, list, isList, isEmpty, equal, apply, expand, eval,
    load, exit]

def name : Primitive → String
  | print => "p"
  | puts => "puts"
  | cons => "cons"
  | first => "first"
  | rest => "rest"
  | concat => "concat"
  | list => "list"
  | isList => "list?"
  | isEmpty => "empty?"
  | equal => "="
  | apply => "apply"
  | expand => "macroexpand-1"
  | eval => "eval"
  | load => "load"
  | exit => "exit"

def arity : Primitive → Arity
  | print | puts | concat | list => .atLeast 0
  | cons | equal => .exactly 2
  | first | rest | isList | isEmpty | expand | eval | load => .exactly 1
  | apply => .atLeast 2
  | exit => .exactly 0

def symbol (primitive : Primitive) : Symbol :=
  ⟨primitive.name⟩

end Primitive

/-- A regular expression as it was written; its pattern is a function of the two parts. -/
structure Regex where
  source : String
  options : String
deriving DecidableEq, Inhabited, Repr

inductive Value where
  | nil
  | bool (value : Bool)
  | int (value : Int64)
  | float (value : Float)
  | str (text : String)
  | symbol (symbol : Symbol)
  | keyword (name : String)
  | regex (regex : Regex)
  | emptyList
  | cons (first rest : Value)
  | closure (id : Nat) (kind : ClosureKind) (parameters : Parameters) (body : Value)
      (scope : Environment)
  | primitive (primitive : Primitive)
  | special (form : SpecialForm)
deriving Inhabited

/-- A closure on its own; `id` tells it from every other closure. -/
structure Closure where
  id : Nat
  kind : ClosureKind
  parameters : Parameters
  /-- The expressions to evaluate in order, as a list value. -/
  body : Value
  scope : Environment

namespace Value

def truthy : Value → Bool
  | nil | bool false => false
  | _ => true

def isNil : Value → Bool
  | nil => true
  | _ => false

def symbol? : Value → Option Symbol
  | symbol name => some name
  | _ => none

def typeName : Value → String
  | nil => "Nil"
  | bool _ => "Boolean"
  | int _ => "Integer"
  | float _ => "Float"
  | str _ => "String"
  | symbol _ => "Symbol"
  | keyword _ => "Keyword"
  | regex _ => "Regexp"
  | emptyList | cons _ _ => "List"
  | closure _ .expander _ _ _ => "Macro"
  | closure _ .function _ _ _ => "Function"
  | primitive _ => "Primitive"
  | special _ => "SpecialForm"

def ofClosure (closure : Closure) : Value :=
  .closure closure.id closure.kind closure.parameters closure.body closure.scope

def closure? : Value → Option Closure
  | closure id kind parameters body scope => some ⟨id, kind, parameters, body, scope⟩
  | _ => none

@[simp] theorem closure?_ofClosure (closure : Closure) :
    (ofClosure closure).closure? = some closure := rfl

/-- Same shape, same parts; closures are the same only if they were made together, and floats
compare as numbers do. -/
def same : Value → Value → Bool
  | nil, nil | emptyList, emptyList => true
  | bool left, bool right => left == right
  | int left, int right => left == right
  | float left, float right => left == right
  | str left, str right => left == right
  | symbol left, symbol right => left == right
  | keyword left, keyword right => left == right
  | regex left, regex right => left == right
  | cons first rest, cons first' rest' => first.same first' && rest.same rest'
  | closure id _ _ _ _, closure id' _ _ _ _ => id == id'
  | primitive left, primitive right => left == right
  | special left, special right => left == right
  | _, _ => false

end Value

end Lisplet
