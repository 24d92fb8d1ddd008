import Lisplet.Symbol.Interner
import Lisplet.Value

namespace Lisplet

inductive Object where
  | nil
  | bool (value : Bool)
  | int (value : Int64)
  | float (value : Float)
  | str (text : String)
  | symbol (handle : Handle)
  | keyword (name : String)
  | regex (regex : Regex)
  | emptyList
  | cons (first rest : Object)
  | closure (id : Nat) (kind : ClosureKind) (positional : List Handle) (others : Option Handle)
      (body : Object) (scope : Environment)
  | primitive (primitive : Primitive)
  | special (form : SpecialForm)
deriving Inhabited

namespace Object

def value (interner : Interner) : Object → Value
  | nil => .nil
  | bool value => .bool value
  | int value => .int value
  | float value => .float value
  | str text => .str text
  | symbol handle => .symbol (interner.symbol handle)
  | keyword name => .keyword name
  | regex literal => .regex literal
  | emptyList => .emptyList
  | cons first rest => .cons (first.value interner) (rest.value interner)
  | closure id kind positional others body scope =>
      .closure id kind ⟨positional.map interner.symbol, others.map interner.symbol⟩
        (body.value interner) scope
  | primitive function => .primitive function
  | special form => .special form

def handles : Object → List Handle
  | symbol handle => [handle]
  | cons first rest => first.handles ++ rest.handles
  | closure _ _ positional others body _ => positional ++ others.toList ++ body.handles
  | _ => []

/-- A value that has neither symbols nor parts; of any other nothing is kept. -/
def ofAtom : Value → Object
  | .bool value => bool value
  | .int value => int value
  | .float value => float value
  | .str text => str text
  | .keyword name => keyword name
  | .regex literal => regex literal
  | .emptyList => emptyList
  | .primitive function => primitive function
  | .special form => special form
  | .nil | .symbol _ | .cons _ _ | .closure _ _ _ _ _ => nil

def ofDotted : List Object → Object → Object
  | [], tail => tail
  | first :: items, tail => cons first (ofDotted items tail)

def ofList (items : List Object) : Object :=
  ofDotted items emptyList

def isTagged (tag : Handle) : Object → Bool
  | cons (symbol head) (cons _ emptyList) => head = tag
  | _ => false

/-- Same shape, same parts; symbols and closures are the same only if they are so by identity. -/
def same : Object → Object → Bool
  | nil, nil | emptyList, emptyList => true
  | bool left, bool right => left == right
  | int left, int right => left == right
  | float left, float right => left == right
  | str left, str right => left == right
  | symbol left, symbol right => left == right
  | keyword left, keyword right => left == right
  | regex left, regex right => left == right
  | cons first rest, cons first' rest' => first.same first' && rest.same rest'
  | closure id _ _ _ _ _, closure id' _ _ _ _ _ => id == id'
  | primitive left, primitive right => left == right
  | special left, special right => left == right
  | _, _ => false

end Object

namespace Names

def form? (names : Names) : Object → Option SpecialForm
  | .symbol handle => names.specialForm? handle
  | _ => none

def mark? (names : Names) : Object → Option Sugar
  | .symbol handle =>
      if handle = names.unquote then some .unquote
      else if handle = names.splice then some .splice
      else none
  | _ => none

end Names

end Lisplet
