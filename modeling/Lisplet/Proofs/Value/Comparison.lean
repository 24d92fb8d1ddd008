import Lisplet.Proofs.Evaluation.Reachable
import Lisplet.Proofs.Symbol.Object
import Lisplet.Proofs.Value.Equality
import Lisplet.Regex.PatternEngine

namespace Lisplet

/-! Equality among the values of one interpreter. There a closure is told by its id, and a symbol by
its place in the table, so that values which are the same look the same. -/

section

variable [RegexEngine]

/-- The primitive and the two operations on the values that `Has` admits. -/
structure Comparison (Has : Value → Prop) : Prop where
  primitive : ∀ fuel left right, Has left → Has right →
    Evaluator.applyAt (fuel + 1) (.primitive .equal) [left, right] =
      pure (.bool (left.same right))
  refl : ∀ value, Has value → value.same value = true
  symm : ∀ left right, Has left → Has right →
    left.same right = true → right.same left = true
  trans : ∀ first second third, Has first → Has second → Has third →
    first.same second = true → second.same third = true → first.same third = true
  lists : ∀ left right, Has left → Has right → left.isList = true → right.isList = true →
    (left.same right = true ↔
      left.items.length = right.items.length ∧
        List.Forall₂ (fun item other => item.same other = true) left.items right.items ∧
        left.tail.same right.tail = true)
  inspect : ∀ names left right, Has left → Has right →
    left.same right = true → left.inspect names = right.inspect names
  equal : ∀ names left right, Has left → Has right →
    send names "==" left [right] = .ok (.bool (left.same right))
  unequal : ∀ names left right, Has left → Has right →
    send names "!=" left [right] = .ok (.bool (!left.same right))

theorem comparison_of_agree {Has : Value → Prop}
    (hfloat : ∀ value, Has value → value.isFloatFree = true)
    (hagree : ∀ left right, Has left → Has right → left.Agree right) : Comparison Has := by
  have heq : ∀ left right, Has left → Has right → left.same right = true → left = right :=
    fun left right hleft hright =>
      Value.eq_of_same (hfloat left hleft) (hagree left right hleft hright)
  have hequal : ∀ left right, Has left → Has right →
      Arithmetic.equal left right = left.same right :=
    fun left right hleft hright =>
      Arithmetic.equal_eq_same (hfloat left hleft) (hfloat right hright)
  refine
    { primitive := fun fuel left right _ _ => Evaluator.applyAt_equal fuel left right
      refl := fun value hvalue => Value.same_self (hfloat value hvalue)
      symm := ?_, trans := ?_, lists := ?_, inspect := ?_, equal := ?_, unequal := ?_ }
  · intro left right hleft hright hsame
    obtain rfl := heq left right hleft hright hsame
    exact hsame
  · intro first second third hfirst hsecond _ hsame hsame'
    rwa [heq first second hfirst hsecond hsame]
  · intro left right _ _ _ _
    rw [Value.same_iff_forall₂]
    exact ⟨fun h => ⟨h.1.length_eq, h⟩, And.right⟩
  · intro names left right hleft hright hsame
    rw [heq left right hleft hright hsame]
  · intro names left right hleft hright
    rw [← hequal left right hleft hright]
    rfl
  · intro names left right hleft hright
    rw [← hequal left right hleft hright]
    rfl

omit [RegexEngine] in
theorem History.agree {history : History} {left right : Value} (hleft : history.Knows left)
    (hright : history.Knows right) : left.Agree right :=
  fun closure hclosure other hother =>
    (hleft closure hclosure).eq_of_id (hright other hother)

theorem History.comparison (history : History) :
    Comparison fun value => history.Knows value ∧ value.isFloatFree = true :=
  comparison_of_agree (fun _ h => h.2) fun _ _ hleft hright => agree hleft.1 hright.1

namespace Reachable

variable {seen : List Closure} {state : State}

theorem values_compare (h : Reachable seen state) :
    (Comparison fun value => value.InSight seen ∧ value.isFloatFree = true) ∧
      (∃ history, state.Follows history ∧ (∀ closure ∈ seen, history.Holds closure) ∧
        ∀ later, history.Precedes later →
          Comparison fun value => later.Knows value ∧ value.isFloatFree = true) ∧
      ∀ (interner : Interner) (left right : Object), left.Known interner → right.Known interner →
        left.same right = (left.value interner).same (right.value interner) := by
  obtain ⟨history, hstate, hseen⟩ := h.follows
  have hknows : ∀ value : Value, value.InSight seen → history.Knows value :=
    fun value hvalue closure hclosure => hseen closure (hvalue closure hclosure)
  refine ⟨?_, ⟨history, hstate, hseen, fun later _ => later.comparison⟩, ?_⟩
  · exact comparison_of_agree (fun _ h => h.2) fun left right hleft hright =>
      History.agree (hknows left hleft.1) (hknows right hright.1)
  · exact fun interner left right => Object.same_eq

end Reachable

end

namespace Reachable

open scoped Pattern

/-- Two functions look the same, and only one is what it is. -/
theorem values_compare_alike_functions :
    let x : Value := .symbol ⟨"x"⟩
    let function : Request := .eval .global (.ofList [.symbol ⟨"fn"⟩, .ofList [x], x])
    let before : State := Eval.final (function.run 4) (.initial .empty)
    let seen := function.revealed 4 before ++ (function.revealed 4 (.initial .empty) ++ [])
    let made (id : Nat) : Value :=
      .closure id .function ⟨[⟨"x"⟩], none⟩ (.ofList [x]) .global
    ((made 0).InSight seen ∧ (made 1).InSight seen) ∧
      (made 0).same (made 0) = true ∧ (made 0).same (made 1) = false ∧
      (made 0).inspect before.names = (made 1).inspect before.names ∧
      Comparison fun value => value.InSight seen ∧ value.isFloatFree = true := by
  intro x function before seen made
  have hfunction : ∀ seen, function.InSight seen :=
    fun _ => ⟨.inl rfl, fun _ hclosure => nomatch hclosure⟩
  have hmade := ((Reachable.initial .empty).request 4 (hfunction [])).request 4 (hfunction _)
  refine ⟨⟨fun other hother => ?_, fun other hother => ?_⟩, rfl, rfl, rfl, hmade.values_compare.1⟩
  · exact List.mem_append_right _ (List.mem_append_left _ (List.mem_append_left _ hother))
  · exact List.mem_append_left _ (List.mem_append_left _ hother)

end Reachable

end Lisplet
