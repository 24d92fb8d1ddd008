import Lisplet.Evaluation.Evaluator
import Lisplet.Regex.PatternEngine

namespace Lisplet

theorem Value.ofDotted_inj {items : List Value} {tail tail' : Value}
    (h : ofDotted items tail = ofDotted items tail') : tail = tail' := by
  induction items with
  | nil => exact h
  | cons item items ih =>
      apply ih
      rw [ofDotted_cons, ofDotted_cons] at h
      injection h

namespace Template

/-! Templates without marks are data as they are. A mark counts at the front of a list only, so that
behind a dot it is an item like any other. -/

mutual

def isLiteral : Value → Bool
  | .cons first rest => (mark? first).isNone && isLiteral first && areLiteral rest
  | _ => true

/-- The same for what stands behind the items of a list, where no list begins. -/
def areLiteral : Value → Bool
  | .cons first rest => isLiteral first && areLiteral rest
  | _ => true

end

section

variable (eval : Value → Eval Value)

theorem expand_of_unmarked {first : Value} (hfirst : mark? first = none) (rest : Value) :
    expand eval (.cons first rest) = following eval (.cons first rest) := by
  have hsplice : isSplice (.cons first rest) = false := by simp [isSplice, hfirst]
  rw [expand, element_of_unmarked hfirst]
  simp only [hsplice, bind_assoc, pure_bind, bind_pure]

theorem element_following_literal (template : Value) :
    (isLiteral template = true → element eval template = pure [template]) ∧
      (areLiteral template = true → following eval template = pure template) := by
  induction template with
  | cons first rest ihFirst ihRest =>
      constructor
      · intro h
        rw [isLiteral, Bool.and_eq_true, Bool.and_eq_true, Option.isNone_iff_eq_none] at h
        obtain ⟨⟨hmark, hfirst⟩, hrest⟩ := h
        simp only [element, hmark, ihFirst.1 hfirst, ihRest.2 hrest, pure_bind]
        rfl
      · intro h
        rw [areLiteral, Bool.and_eq_true] at h
        simp only [following, ihFirst.1 h.1, ihRest.2 h.2, pure_bind]
        rfl
  | _ => exact ⟨fun _ => rfl, fun _ => rfl⟩

theorem following_ofDotted {items : List Value} (hitems : ∀ item ∈ items, isLiteral item = true)
    (tail : Value) :
    following eval (.ofDotted items tail) =
      following eval tail >>= fun back => pure (.ofDotted items back) := by
  induction items with
  | nil => simp
  | cons item items ih =>
      have hitem := (element_following_literal eval item).1 (hitems item List.mem_cons_self)
      have hlater := ih fun other hother => hitems other (List.mem_cons_of_mem item hother)
      simp only [Value.ofDotted_cons, following, hitem, hlater, pure_bind, bind_assoc]
      rfl

/-- The mark behind the dot stays, and what it marks is one more item. -/
theorem expand_behind_dot {first : Value} {items : List Value} (hfirst : mark? first = none)
    (hitems : ∀ item ∈ first :: items, isLiteral item = true) (operand : Value) :
    expand eval (.ofDotted (first :: items) (.ofList [.symbol Sugar.unquote.symbol, operand])) =
      element eval operand >>= fun values =>
        pure (.ofDotted (first :: items)
          (.cons (.symbol Sugar.unquote.symbol) (.ofList values))) := by
  have htail : following eval (.ofList [.symbol Sugar.unquote.symbol, operand]) =
      element eval operand >>= fun values =>
        pure (.cons (.symbol Sugar.unquote.symbol) (.ofList values)) := by
    simp only [Value.ofList, Value.ofDotted_cons, Value.ofDotted_nil, following, element, pure_bind,
      bind_assoc]
  have hwhole : expand eval (.ofDotted (first :: items)
      (.ofList [.symbol Sugar.unquote.symbol, operand])) =
        following eval (.ofDotted (first :: items)
          (.ofList [.symbol Sugar.unquote.symbol, operand])) :=
    expand_of_unmarked eval hfirst _
  rw [hwhole, following_ofDotted eval hitems, htail, bind_assoc]
  simp only [pure_bind]

end

section

variable [RegexEngine]

/-- Behind a dot, an unquoted symbol is not evaluated: the template stays as it is written. It is
the template with the symbol's value behind the dot only if that value is the unquoted symbol. -/
theorem expand_dotted_unquote {first : Value} {items : List Value} (hfirst : mark? first = none)
    (hitems : ∀ item ∈ first :: items, isLiteral item = true) (key : Symbol)
    (environment : Environment) (fuel : Nat) (state : State) :
    let unquoted := Value.ofList [.symbol Sugar.unquote.symbol, .symbol key]
    let expanded := expand (Evaluator.evalAt fuel environment)
      (.ofDotted (first :: items) unquoted) state
    expanded = .ok (.ofDotted (first :: items) unquoted) state ∧
      ∀ value, expanded = .ok (.ofDotted (first :: items) value) state ↔ value = unquoted := by
  intro unquoted expanded
  have hexpanded : expanded = .ok (.ofDotted (first :: items) unquoted) state := by
    have hexpand :=
      expand_behind_dot (Evaluator.evalAt fuel environment) hfirst hitems (.symbol key)
    exact congrFun hexpand state
  refine ⟨hexpanded, fun value => ?_⟩
  rw [hexpanded]
  constructor
  · intro hsame
    injection hsame with hdotted
    exact (Value.ofDotted_inj hdotted).symm
  · rintro rfl
    rfl

end

open scoped Pattern

/-- The template `(a (b 2) . ,x)`, where `x` is 1. -/
theorem expand_dotted_unquote_two_items :
    let items := [Value.symbol ⟨"a"⟩, .ofList [.symbol ⟨"b"⟩, .int 2]]
    let unquoted := Value.ofList [.symbol Sugar.unquote.symbol, .symbol ⟨"x"⟩]
    let state := { State.initial .empty with
      store := (State.initial .empty).store.define ⟨"x"⟩ (.int 1) }
    mark? (.symbol ⟨"a"⟩) = none ∧ (∀ item ∈ items, isLiteral item = true) ∧
      expand (Evaluator.evalAt 1 .global) (.ofDotted items unquoted) state =
        .ok (.ofDotted items unquoted) state := by
  intro items unquoted state
  have hfirst : mark? (.symbol ⟨"a"⟩) = none := by decide
  have hitems : ∀ item ∈ items, isLiteral item = true := by
    intro item hitem
    rcases List.mem_cons.mp hitem with rfl | hitem
    · rfl
    · rw [List.mem_singleton.mp hitem]
      decide
  exact ⟨hfirst, hitems, (expand_dotted_unquote hfirst hitems ⟨"x"⟩ .global 1 state).1⟩

/-- With `x` bound to 1, the template read from `(a . ,x)` does not expand to `(a . 1)`. -/
theorem dotted_unquote_unevaluated :
    let front := [Value.symbol ⟨"a"⟩]
    let template := Value.ofDotted front (.ofList [.symbol Sugar.unquote.symbol, .symbol ⟨"x"⟩])
    let state := { State.initial .empty with
      store := (State.initial .empty).store.define ⟨"x"⟩ (.int 1) }
    (Reader.read ['(', 'a', ' ', '.', ' ', ',', 'x', ')']).outcome = .ok (some template) ∧
      Evaluator.evalAt 1 .global (.symbol ⟨"x"⟩) state = .ok (.int 1) state ∧
      expand (Evaluator.evalAt 1 .global) template state ≠
        .ok (.ofDotted front (.int 1)) state := by
  intro front template state
  have hexpanded : expand (Evaluator.evalAt 1 .global) template state = .ok template state := rfl
  refine ⟨rfl, rfl, ?_⟩
  rw [hexpanded]
  intro hsame
  injection hsame with htemplate
  cases Value.ofDotted_inj htemplate

end Template

end Lisplet
