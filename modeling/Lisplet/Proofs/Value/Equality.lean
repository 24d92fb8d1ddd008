import Lisplet.Evaluation.Evaluator
import Lisplet.Proofs.Evaluation.History
import Mathlib.Data.List.Forall2

namespace Lisplet

/-! Values that are the same. Floats are left out, for they are not compared by what they are, and
so are the insides of closures, which are not compared at all. -/

namespace Value

def isFloatFree : Value → Bool
  | float _ => false
  | cons first rest => first.isFloatFree && rest.isFloatFree
  | _ => true

theorem isFloatFree_cons {first rest : Value} :
    (cons first rest).isFloatFree = true ↔
      first.isFloatFree = true ∧ rest.isFloatFree = true :=
  Bool.and_eq_true_iff

theorem same_self {value : Value} (h : value.isFloatFree = true) : value.same value = true := by
  induction value with
  | nil | emptyList => rfl
  | float => cases h
  | cons first rest ihFirst ihRest =>
      obtain ⟨hfirst, hrest⟩ := isFloatFree_cons.mp h
      rw [same, ihFirst hfirst, ihRest hrest, Bool.and_self]
  | _ => exact beq_self_eq_true _

/-- Closures that have the same id are the same in all. -/
def Agree (left right : Value) : Prop :=
  ∀ closure ∈ left.closures, ∀ other ∈ right.closures, closure.id = other.id → closure = other

theorem Agree.first {first rest first' rest' : Value}
    (h : (cons first rest).Agree (cons first' rest')) : first.Agree first' :=
  fun closure hclosure other hother =>
    h closure (List.mem_append_left _ hclosure) other (List.mem_append_left _ hother)

theorem Agree.rest {first rest first' rest' : Value}
    (h : (cons first rest).Agree (cons first' rest')) : rest.Agree rest' :=
  fun closure hclosure other hother =>
    h closure (List.mem_append_right _ hclosure) other (List.mem_append_right _ hother)

theorem eq_of_same {left right : Value} (hfloat : left.isFloatFree = true)
    (hagree : left.Agree right) (hsame : left.same right = true) : left = right := by
  fun_induction same left right with
  | case1 | case2 => rfl
  | case5 => cases hfloat
  | case10 first rest first' rest' ihFirst ihRest =>
      obtain ⟨hfirst, hrest⟩ := isFloatFree_cons.mp hfloat
      rw [Bool.and_eq_true] at hsame
      rw [ihFirst hfirst hagree.first hsame.1, ihRest hrest hagree.rest hsame.2]
  | case11 id kind parameters body scope id' =>
      have hclosure := hagree _ List.mem_cons_self _ List.mem_cons_self (eq_of_beq hsame)
      cases hclosure
      rfl
  | case14 => cases hsame
  | _ => rw [eq_of_beq hsame]

theorem same_iff_forall₂ (left right : Value) :
    left.same right = true ↔
      List.Forall₂ (fun item other => item.same other = true) left.items right.items ∧
        left.tail.same right.tail = true := by
  induction left generalizing right with
  | cons first rest _ ih =>
      cases right with
      | cons first' rest' =>
          rw [same, Bool.and_eq_true, ih, ← and_assoc, items, items, List.forall₂_cons]
          rfl
      | _ =>
          exact iff_of_false Bool.false_ne_true fun h =>
            List.cons_ne_nil _ _ (List.forall₂_nil_right_iff.mp h.1)
  | _ =>
      cases right with
      | cons first rest =>
          exact iff_of_false Bool.false_ne_true fun h =>
            List.cons_ne_nil _ _ (List.forall₂_nil_left_iff.mp h.1)
      | _ => exact (and_iff_right .nil).symm

end Value

namespace Arithmetic

theorem equal_eq_same {left right : Value} (hleft : left.isFloatFree = true)
    (hright : right.isFloatFree = true) : equal left right = left.same right := by
  cases left with
  | float => cases hleft
  | int left =>
      cases right with
      | float => cases hright
      | _ => rfl
  | _ => rfl

end Arithmetic

variable [RegexEngine]

theorem Evaluator.applyAt_equal (fuel : Nat) (left right : Value) :
    applyAt (fuel + 1) (.primitive .equal) [left, right] = pure (.bool (left.same right)) :=
  rfl

end Lisplet
