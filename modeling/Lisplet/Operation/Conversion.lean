import Lisplet.Operation.Arithmetic
import Lisplet.Regex.Engine
import Lisplet.Text.LetterCase

namespace Lisplet

namespace Conversion

open Arithmetic (unsupported)

/-! Conversions between numbers and texts, and questions about texts and lists. -/

def trim (text : List Char) : List Char :=
  ((text.dropWhile CharProperty.isWhiteSpace).reverse.dropWhile CharProperty.isWhiteSpace).reverse

/-- Floats at or beyond this size are not converted to integers. -/
def integerBound : Float :=
  9.2e18

/-- A float loses its fraction. -/
def toInteger (operation : String) : Value → Except Error Value
  | .nil => .ok (.int 0)
  | .int value => .ok (.int value)
  | .float value =>
      if value.isFinite && value.abs < integerBound then .ok (.int value.toInt64)
      else .error (.badConversion (NumberText.ofFloat NumberText.plain value) "Integer")
  | .str text =>
      match NumberText.toInt? (trim text.toList) with
      | some value => .ok (.int value)
      | none => .error (.badConversion text "Integer")
  | receiver => .error (unsupported operation receiver none)

def toFloat (operation : String) : Value → Except Error Value
  | .nil => .ok (.float 0.0)
  | .int value => .ok (.float value.toFloat)
  | .float value => .ok (.float value)
  | .str text =>
      match NumberText.toFloat? (trim text.toList) with
      | some value => .ok (.float value)
      | none => .error (.badConversion text "Float")
  | receiver => .error (unsupported operation receiver none)

def length (operation : String) (receiver : Value) : Except Error Value :=
  match receiver with
  | .str text => .ok (.int (Int64.ofNat text.length))
  | _ =>
      match receiver.toList? with
      | some items => .ok (.int (Int64.ofNat items.length))
      | none => .error (unsupported operation receiver none)

def changeCase (convert : List Char → List Char) (operation : String) : Value → Except Error Value
  | .str text => .ok (.str (String.ofList (convert text.toList)))
  | .keyword name => .ok (.keyword (String.ofList (convert name.toList)))
  | receiver => .error (unsupported operation receiver none)

variable [RegexEngine]

def matchStart (regex : Regex) (text : String) : Value :=
  match regex.find? text with
  | some place => .int (Int64.ofNat place)
  | none => .nil

/-- A string and a regular expression may stand on either side. -/
def match? (operation : String) : Value → Value → Except Error Value
  | .str text, .regex regex | .regex regex, .str text => .ok (matchStart regex text)
  | receiver, argument => .error (unsupported operation receiver (some argument))

end Conversion

end Lisplet
