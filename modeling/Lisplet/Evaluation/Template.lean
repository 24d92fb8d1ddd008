import Lisplet.State

namespace Lisplet.Template

/-! Templates: data in which marked places are evaluated. -/

def operand (sugar : Sugar) (rest : Value) : Eval Value := do
  match ← Eval.ofOption .improperForm rest.toList? with
  | [operand] => return operand
  | operands => Eval.fail (.unquoteOperands sugar operands.length)

def splice (eval : Value → Eval Value) (rest : Value) : Eval (List Value) := do
  let value ← eval (← operand .splice rest)
  Eval.ofOption (.spliceNotList value) value.toList?

def mark? : Value → Option Sugar
  | .symbol symbol =>
      if symbol = Sugar.unquote.symbol then some .unquote
      else if symbol = Sugar.splice.symbol then some .splice
      else none
  | _ => none

mutual

/-- What stands in the place of an element: one value, or as many as a splice gives. -/
def element (eval : Value → Eval Value) : Value → Eval (List Value)
  | .cons first rest =>
      match mark? first with
      | some .unquote => do return [← eval (← operand .unquote rest)]
      | some .splice => splice eval rest
      | _ => do
          let front ← element eval first
          let back ← following eval rest
          return [Value.ofDotted front back]
  | value => return [value]

/-- The rest of a list. Its tail is kept as it is written. -/
def following (eval : Value → Eval Value) : Value → Eval Value
  | .cons first rest => do
      let front ← element eval first
      let back ← following eval rest
      return Value.ofDotted front back
  | value => return value

end

theorem element_of_unmarked {first : Value} (hfirst : mark? first = none)
    (eval : Value → Eval Value) (rest : Value) :
    element eval (.cons first rest) =
      following eval (.cons first rest) >>= fun value => pure [value] := by
  simp only [element, following, hfirst, bind_assoc, pure_bind]

def isSplice : Value → Bool
  | .cons first _ => mark? first = some .splice
  | _ => false

/-- The datum that a template describes. A splice has no list to go into. -/
def expand (eval : Value → Eval Value) (template : Value) : Eval Value := do
  let values ← element eval template
  match isSplice template, values with
  | false, [value] => return value
  | _, _ => Eval.fail .spliceOutsideList

end Lisplet.Template
