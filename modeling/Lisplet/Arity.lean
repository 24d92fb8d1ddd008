namespace Lisplet

inductive Arity where
  | between (least most : Nat)
  | atLeast (least : Nat)
deriving DecidableEq, Inhabited, Repr

namespace Arity

def exactly (count : Nat) : Arity :=
  between count count

def Admits : Arity → Nat → Prop
  | between least most, count => least ≤ count ∧ count ≤ most
  | atLeast least, count => least ≤ count

instance (arity : Arity) (count : Nat) : Decidable (arity.Admits count) := by
  cases arity <;> unfold Admits <;> infer_instance

def least : Arity → Nat
  | between least _ => least
  | atLeast least => least

def most? : Arity → Option Nat
  | between _ most => some most
  | atLeast _ => none

def text : Arity → String
  | between least most =>
      if least = most then "exactly " ++ least.repr
      else "from " ++ least.repr ++ " to " ++ most.repr
  | atLeast least => "at least " ++ least.repr

@[simp] theorem admits_exactly {expected count : Nat} :
    (exactly expected).Admits count ↔ count = expected := by
  simp only [exactly, Admits]
  omega

@[simp] theorem admits_atLeast {least count : Nat} :
    (atLeast least).Admits count ↔ least ≤ count :=
  Iff.rfl

end Arity

end Lisplet
