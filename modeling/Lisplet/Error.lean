import Lisplet.Files
import Lisplet.Text.Diagnostic
import Lisplet.Value.Printer

namespace Lisplet

/-! Everything that can go wrong, by cause. Reading and evaluation share one type, since each can
meet the other's failures. -/

inductive Expected where
  | datum | list | dottedPair
  | operand (sugar : Sugar)
deriving DecidableEq, Inhabited, Repr

def Expected.text : Expected → String
  | datum => "a datum"
  | list => "a list"
  | dottedPair => "a dotted pair"
  | operand sugar => sugar.name

inductive Error where
  -- Reading.
  | unexpectedEnd (expected : Expected)
  | strayClose
  | dotOutsidePair
  | badDottedTail
  | badNumber (token : String)
  | unterminatedString
  | unterminatedRegex
  | unknownRegexOption (option : Char)
  /-- With what the engine says of the source. -/
  | badRegex (message : String)
  | emptyKeyword
  -- Calling.
  | wrongArity (name : String) (expected : Arity) (count : Nat)
  -- Naming.
  | undefined (symbol : Symbol)
  | unassignable (symbol : Symbol)
  -- The shape of a form.
  | tooManyAmpersands (count : Nat)
  | misplacedAmpersand
  | parameterNotSymbol (value : Value)
  | parametersNotList (value : Value)
  | missingBody (kind : ClosureKind)
  | spliceOutsideList
  | unquoteOperands (sugar : Sugar) (count : Nat)
  | spliceNotList (value : Value)
  | expectedList (primitive : Primitive) (value : Value)
  | improperForm
  | notCallable (value : Value)
  | specialFormAsValue (form : SpecialForm)
  | targetNotSymbol (form : SpecialForm) (value : Value)
  -- Operations on values.
  | unknownOperation (name : String)
  | badOperationName (value : Value)
  | unsupported (operation receiver : String) (argument : Option String)
  | divideByZero
  | overflow (operation : String)
  | badConversion (text target : String)
  -- The world outside.
  | file (error : FileError)
  | exit

namespace Error

def className : Error → String
  | unexpectedEnd _ | strayClose | dotOutsidePair | badDottedTail | badNumber _
  | unterminatedString | unterminatedRegex | unknownRegexOption _ | badRegex _ | emptyKeyword =>
      "ReadError"
  | wrongArity _ _ _ => "ArityError"
  | undefined _ | unassignable _ => "NameError"
  | tooManyAmpersands _ | misplacedAmpersand | parameterNotSymbol _ | parametersNotList _
  | missingBody _ | spliceOutsideList | unquoteOperands _ _ | spliceNotList _ | expectedList _ _
  | improperForm | notCallable _ | specialFormAsValue _ | targetNotSymbol _ _ =>
      "StructuralError"
  | unknownOperation _ | badOperationName _ | unsupported _ _ _ | divideByZero | overflow _
  | badConversion _ _ =>
      "HostEscapeError"
  | file _ => "IOError"
  | exit => "Exit"

/-- Values are shown with the names that closures have by then. -/
def message (names : ClosureNames) : Error → String
  | unexpectedEnd expected => "reader reached EOF while reading " ++ expected.text
  | strayClose => "unexpected ')'"
  | dotOutsidePair => "'.' outside dotted pair"
  | badDottedTail => "a dotted pair takes exactly one value after the '.'"
  | badNumber token => "invalid number: " ++ token
  | unterminatedString => "unterminated string literal"
  | unterminatedRegex => "unterminated regular expression"
  | unknownRegexOption option => "unknown regexp option: " ++ String.singleton option
  | badRegex message => "invalid regular expression: " ++ message
  | emptyKeyword => "':' must be followed by a name"
  | wrongArity name expected count =>
      "wrong number of arguments to " ++ name ++ " (" ++ count.repr ++ " for " ++ expected.text ++
        ")"
  | undefined symbol => symbol.name ++ " is undefined"
  | unassignable symbol => "Undefined variable '" ++ symbol.name ++ "'"
  | tooManyAmpersands count =>
      "found " ++ count.repr ++ " '&' markers in an argument list, expected at most one"
  | misplacedAmpersand =>
      "'&' can only be found in the second to last position of an argument list"
  | parameterNotSymbol value => "parameter " ++ value.inspect names ++ " is not a symbol"
  | parametersNotList value => "parameters must be a list, got " ++ value.inspect names
  | missingBody kind => kind.name ++ " requires a body"
  | spliceOutsideList => "unquote-splicing must appear inside a list"
  | unquoteOperands sugar count =>
      sugar.name ++ " expects only one operand, got " ++ count.repr
  | spliceNotList value =>
      "unquote-splicing must be used with a list, got " ++ value.inspect names
  | expectedList primitive value =>
      primitive.name ++ " expects a list, got " ++ value.inspect names
  | improperForm => "cannot evaluate a dotted list"
  | notCallable value => value.inspect names ++ " is not callable"
  | specialFormAsValue form =>
      "special form " ++ form.name ++ " can only be used in operator position"
  | targetNotSymbol form value =>
      form.name ++ " expects a symbol as its target, got " ++ value.inspect names
  | unknownOperation name => "send: no operation named '" ++ name ++ "'"
  | badOperationName value =>
      "send: operation name must be a keyword, symbol or string, got " ++ value.inspect names
  | unsupported operation receiver none =>
      "send: " ++ receiver ++ " does not support '" ++ operation ++ "'"
  | unsupported operation receiver (some argument) =>
      "send: " ++ receiver ++ " does not support '" ++ operation ++ "' with a " ++ argument ++
        " argument"
  | divideByZero => "divided by 0"
  | overflow operation => "integer overflow in '" ++ operation ++ "'"
  | badConversion text target => "cannot convert " ++ Diagnostic.quote text ++ " to " ++ target
  | file error => error.message
  | exit => "exit"

end Error

end Lisplet
