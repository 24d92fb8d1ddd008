import Lisplet.Error
import Lisplet.Number.Word

namespace Lisplet.Arithmetic

/-! Arithmetic. Two integers give an integer, exactly or not at all; a float on either side makes
both sides floats. -/

inductive Numbers where
  | ints (left right : Int64)
  | floats (left right : Float)

def unsupported (operation : String) (receiver : Value) (argument : Option Value) : Error :=
  .unsupported operation receiver.typeName (argument.map Value.typeName)

def numbers? : Value → Value → Option Numbers
  | .int left, .int right => some (.ints left right)
  | .int left, .float right => some (.floats left.toFloat right)
  | .float left, .int right => some (.floats left right.toFloat)
  | .float left, .float right => some (.floats left right)
  | _, _ => none

def numbers (operation : String) (receiver argument : Value) : Except Error Numbers :=
  match numbers? receiver argument with
  | some numbers => .ok numbers
  | none => .error (unsupported operation receiver (some argument))

def exact (operation : String) : Option Int64 → Except Error Value
  | some value => .ok (.int value)
  | none => .error (.overflow operation)

def addNumbers (operation : String) : Numbers → Except Error Value
  | .ints left right => exact operation (Word.add? left right)
  | .floats left right => .ok (.float (left + right))

/-- Strings and proper lists are put one after the other. -/
def add (operation : String) (receiver argument : Value) : Except Error Value :=
  match receiver, argument with
  | .str left, .str right => .ok (.str (left ++ right))
  | _, _ =>
      if receiver.isList && argument.isList then
        match argument.toList?.bind fun _ => receiver.append? argument with
        | some list => .ok list
        | none => .error (unsupported operation receiver (some argument))
      else do addNumbers operation (← numbers operation receiver argument)

def subtract (operation : String) (receiver argument : Value) : Except Error Value := do
  match ← numbers operation receiver argument with
  | .ints left right => exact operation (Word.subtract? left right)
  | .floats left right => return .float (left - right)

def multiply (operation : String) (receiver argument : Value) : Except Error Value := do
  match ← numbers operation receiver argument with
  | .ints left right => exact operation (Word.multiply? left right)
  | .floats left right => return .float (left * right)

/-! Division rounds down. The machine's division cuts off toward zero, so its results are put right
where the signs differ; the steps on the way are plain operations, and `none` is a trap. -/

def quotientSteps (operation : String) (left right : Int64) : Option (Except Error Value) :=
  if right = 0 then some (.error .divideByZero)
  else
    match Word.checkedDivide left right with
    | none => some (.error (.overflow operation))
    | some quotient => do
        let remainder ← Word.remainder? left right
        if remainder ≠ 0 ∧ ¬(left < 0 ↔ right < 0) then
          return .ok (.int (← Word.subtract? quotient 1))
        else return .ok (.int quotient)

def remainderSteps (left right : Int64) : Option (Except Error Value) :=
  if right = 0 then some (.error .divideByZero)
  else do
    let remainder ← Word.wrappingRemainder? left right
    if remainder ≠ 0 ∧ ¬(remainder < 0 ↔ right < 0) then
      return .ok (.int (← Word.add? remainder right))
    else return .ok (.int remainder)

section Steps

variable {left right : Int64}

theorem quotientSteps_of_quotient (operation : String) (h : Word.noQuotient left right = false) :
    quotientSteps operation left right =
      if left % right ≠ 0 ∧ ¬(left < 0 ↔ right < 0) then
        (Word.subtract? (left / right) 1).map fun quotient => .ok (.int quotient)
      else some (.ok (.int (left / right))) := by
  rw [quotientSteps, if_neg (Word.ne_zero_of_quotient h)]
  simp only [Word.checkedDivide, Word.remainder?, h, Bool.false_eq_true, if_false,
    Option.bind_eq_bind, Option.bind_some]
  split
  · cases Word.subtract? (left / right) 1 <;> rfl
  · rfl

theorem remainderSteps_of_ne_zero (h : right ≠ 0) :
    remainderSteps left right =
      if left % right ≠ 0 ∧ ¬(left % right < 0 ↔ right < 0) then
        (Word.add? (left % right) right).map fun remainder => .ok (.int remainder)
      else some (.ok (.int (left % right))) := by
  rw [remainderSteps, if_neg h]
  simp only [Word.wrappingRemainder?, h, if_false, Option.bind_eq_bind, Option.bind_some]
  split
  · cases Word.add? (left % right) right <;> rfl
  · rfl

theorem isSome_quotientSteps (operation : String) (left right : Int64) :
    (quotientSteps operation left right).isSome = true := by
  cases hquotient : Word.noQuotient left right with
  | true =>
      rw [quotientSteps]
      split
      · rfl
      · simp only [Word.checkedDivide, hquotient, if_true, Option.isSome_some]
  | false =>
      rw [quotientSteps_of_quotient operation hquotient]
      split
      · rename_i hround
        rw [Option.isSome_map]
        exact Word.isSome_subtract?_divide hquotient hround.1
      · rfl

theorem isSome_remainderSteps (left right : Int64) :
    (remainderSteps left right).isSome = true := by
  by_cases hright : right = 0
  · rw [remainderSteps, if_pos hright]
    rfl
  · rw [remainderSteps_of_ne_zero hright]
    split
    · rename_i hround
      rw [Option.isSome_map]
      exact Word.isSome_add?_of_signs hround.2
    · rfl

end Steps

def divide (operation : String) (receiver argument : Value) : Except Error Value := do
  match ← numbers operation receiver argument with
  | .ints left right =>
      (quotientSteps operation left right).get (isSome_quotientSteps operation left right)
  | .floats left right => return .float (left / right)

/-- The remainder takes the sign of the divisor. -/
def floatModulo (left right : Float) : Float :=
  let remainder := Binary64.remainder left right
  if remainder != 0.0 && (remainder < 0.0) != (right < 0.0) then remainder + right else remainder

def modulo (operation : String) (receiver argument : Value) : Except Error Value := do
  match ← numbers operation receiver argument with
  | .ints left right => (remainderSteps left right).get (isSome_remainderSteps left right)
  | .floats left right => return .float (floatModulo left right)

/-- Two floats of which one is no number have no order. -/
def compareFloats (left right : Float) : Option Ordering :=
  if left < right then some .lt
  else if left == right then some .eq
  else if right < left then some .gt
  else none

def compare (operation : String) (receiver argument : Value) : Except Error (Option Ordering) := do
  match receiver, argument with
  | .str left, .str right => return some (Ord.compare left right)
  | _, _ =>
      match ← numbers operation receiver argument with
      | .ints left right => return some (Ord.compare left.toInt right.toInt)
      | .floats left right => return compareFloats left right

def test (holds : Ordering → Bool) (operation : String) (receiver argument : Value) :
    Except Error Value := do
  return .bool ((← compare operation receiver argument).any holds)

/-- Numbers are equal if their values are; anything else is compared as `=` does. -/
def equal (receiver argument : Value) : Bool :=
  match numbers? receiver argument with
  | some (.ints left right) => left == right
  | some (.floats left right) => left == right
  | none => receiver.same argument

end Lisplet.Arithmetic
