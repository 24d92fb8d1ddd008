import Lisplet.Operation.Conversion

namespace Lisplet

/-! The operations that a message can ask of a value. There are no others. -/

inductive Operation where
  | add | subtract | multiply | divide | modulo
  | less | lessEqual | greater | greaterEqual | equal | unequal
  | toText | inspect | toInteger | toFloat
  | length | size | upcase | downcase | locate
  | isNil | typeName
deriving DecidableEq, Inhabited, Repr

namespace Operation

def all : List Operation :=
  [add, subtract, multiply, divide, modulo, less, lessEqual, greater, greaterEqual, equal, unequal,
    toText, inspect, toInteger, toFloat, length, size, upcase, downcase, locate, isNil, typeName]

def name : Operation → String
  | add => "+"
  | subtract => "-"
  | multiply => "*"
  | divide => "/"
  | modulo => "%"
  | less => "<"
  | lessEqual => "<="
  | greater => ">"
  | greaterEqual => ">="
  | equal => "=="
  | unequal => "!="
  | toText => "to_s"
  | inspect => "inspect"
  | toInteger => "to_i"
  | toFloat => "to_f"
  | length => "length"
  | size => "size"
  | upcase => "upcase"
  | downcase => "downcase"
  | locate => "=~"
  | isNil => "nil?"
  | typeName => "class"

def ofName? (name : String) : Option Operation :=
  all.find? (fun operation => operation.name = name)

/-- The meaning of an operation, by the number of its arguments. -/
inductive Meaning where
  | unary (run : ClosureNames → Value → Except Error Value)
  | binary (run : Value → Value → Except Error Value)

variable [RegexEngine]

def meaning (operation : Operation) : Meaning :=
  let name := operation.name
  match operation with
  | add => .binary (Arithmetic.add name)
  | subtract => .binary (Arithmetic.subtract name)
  | multiply => .binary (Arithmetic.multiply name)
  | divide => .binary (Arithmetic.divide name)
  | modulo => .binary (Arithmetic.modulo name)
  | less => .binary (Arithmetic.test Ordering.isLT name)
  | lessEqual => .binary (Arithmetic.test Ordering.isLE name)
  | greater => .binary (Arithmetic.test Ordering.isGT name)
  | greaterEqual => .binary (Arithmetic.test Ordering.isGE name)
  | equal => .binary fun receiver argument => .ok (.bool (Arithmetic.equal receiver argument))
  | unequal => .binary fun receiver argument => .ok (.bool (!Arithmetic.equal receiver argument))
  | toText => .unary fun names receiver => .ok (.str (receiver.display names))
  | inspect => .unary fun names receiver => .ok (.str (receiver.inspect names))
  | toInteger => .unary fun _ => Conversion.toInteger name
  | toFloat => .unary fun _ => Conversion.toFloat name
  | length | size => .unary fun _ => Conversion.length name
  | upcase => .unary fun _ => Conversion.changeCase LetterCase.upper name
  | downcase => .unary fun _ => Conversion.changeCase LetterCase.lower name
  | locate => .binary (Conversion.match? name)
  | isNil => .unary fun _ receiver => .ok (.bool receiver.isNil)
  | typeName => .unary fun _ receiver => .ok (.str receiver.typeName)

def perform (names : ClosureNames) (operation : Operation) (receiver : Value)
    (arguments : List Value) : Except Error Value :=
  match operation.meaning, arguments with
  | .unary run, [] => run names receiver
  | .binary run, [argument] => run receiver argument
  | .unary _, _ => .error (.wrongArity operation.name (.exactly 0) arguments.length)
  | .binary _, _ => .error (.wrongArity operation.name (.exactly 1) arguments.length)

end Operation

variable [RegexEngine]

def send (names : ClosureNames) (name : String) (receiver : Value) (arguments : List Value) :
    Except Error Value :=
  match Operation.ofName? name with
  | some operation => operation.perform names receiver arguments
  | none => .error (.unknownOperation name)

end Lisplet
