import Lisplet.Evaluation.Evaluator
import Lisplet.Regex.PatternEngine

namespace Lisplet

namespace Value

/-! Values as lists: each is some items before a tail, and in one way only. -/

structure Decomposition (value : Value) : Prop where
  rebuilt : value = ofDotted value.items value.tail
  tail : value.tail.isPair = false
  unique : ∀ items tail, tail.isPair = false → value = ofDotted items tail →
    items = value.items ∧ tail = value.tail
  proper : ∀ items, value.toList? = some items ↔ value.tail = emptyList ∧ items = value.items

theorem eq_ofList_iff {value : Value} {items : List Value} :
    value = ofList items ↔ value.tail = emptyList ∧ items = value.items := by
  constructor
  · rintro rfl
    exact ⟨tail_ofList items, (items_ofList items).symm⟩
  · rintro ⟨htail, rfl⟩
    rw [ofList, ← htail, ofDotted_items_tail]

theorem toList?_eq_some_iff_tail {value : Value} {items : List Value} :
    value.toList? = some items ↔ value.tail = emptyList ∧ items = value.items :=
  toList?_eq_some_iff.trans eq_ofList_iff

theorem toList?_of_tail {value : Value} (h : value.tail = emptyList) :
    value.toList? = some value.items :=
  toList?_eq_some_iff_tail.mpr ⟨h, rfl⟩

theorem decomposition (value : Value) : Decomposition value where
  rebuilt := (ofDotted_items_tail value).symm
  tail := isPair_tail value
  unique items tail htail heq := by
    rw [heq]
    exact ⟨(items_ofDotted items htail).symm, (tail_ofDotted items htail).symm⟩
  proper _ := toList?_eq_some_iff_tail

def join? (front back : Value) : Option Value :=
  front.toList?.bind fun items => back.toList?.map fun others => ofList (items ++ others)

theorem join?_of_front {front : Value} (h : front.toList? = none) (back : Value) :
    front.join? back = none := by
  rw [join?, h, Option.bind_none]

theorem join?_of_back {back : Value} (h : back.toList? = none) (front : Value) :
    front.join? back = none := by
  cases hfront : front.toList? with
  | none => exact join?_of_front hfront back
  | some items => rw [join?, hfront, Option.bind_some, h, Option.map_none]

theorem join?_of_toList? {front back : Value} {items others : List Value}
    (hfront : front.toList? = some items) (hback : back.toList? = some others) :
    front.join? back = some (ofList (items ++ others)) := by
  rw [join?, hfront, hback, Option.bind_some, Option.map_some]

theorem join?_eq_some_iff {front back list : Value} :
    front.join? back = some list ↔
      front.tail = emptyList ∧ back.tail = emptyList ∧
        list = ofList (front.items ++ back.items) := by
  constructor
  · intro h
    obtain ⟨items, hfront, hrest⟩ := Option.bind_eq_some_iff.mp h
    obtain ⟨others, hback, rfl⟩ := Option.map_eq_some_iff.mp hrest
    obtain ⟨hproper, rfl⟩ := toList?_eq_some_iff_tail.mp hfront
    obtain ⟨hproper', rfl⟩ := toList?_eq_some_iff_tail.mp hback
    exact ⟨hproper, hproper', rfl⟩
  · rintro ⟨hfront, hback, rfl⟩
    exact join?_of_toList? (toList?_of_tail hfront) (toList?_of_tail hback)

theorem join?_assoc (first second third : Value) :
    (first.join? second).bind (·.join? third) = (second.join? third).bind first.join? := by
  cases hfirst : first.toList? with
  | none =>
      rw [join?_of_front hfirst, Option.bind_none, eq_comm, Option.bind_eq_none_iff]
      exact fun list _ => join?_of_front hfirst list
  | some items =>
      cases hsecond : second.toList? with
      | none =>
          rw [join?_of_back hsecond, join?_of_front hsecond, Option.bind_none, Option.bind_none]
      | some others =>
          cases hthird : third.toList? with
          | none =>
              rw [join?_of_back hthird, Option.bind_none, Option.bind_eq_none_iff]
              exact fun list _ => join?_of_back hthird list
          | some last =>
              rw [join?_of_toList? hfirst hsecond, join?_of_toList? hsecond hthird,
                Option.bind_some, Option.bind_some, join?_of_toList? (toList?_ofList _) hthird,
                join?_of_toList? hfirst (toList?_ofList _), List.append_assoc]

theorem join?_emptyList {list : Value} (h : list.tail = emptyList) :
    emptyList.join? list = some list ∧ list.join? emptyList = some list := by
  have hlist : list = ofList list.items := eq_ofList_iff.mpr ⟨h, rfl⟩
  have hitems : list.toList? = some list.items := toList?_of_tail h
  have hempty : emptyList.toList? = some [] := rfl
  rw [join?_of_toList? hempty hitems, join?_of_toList? hitems hempty, List.nil_append,
    List.append_nil, ← hlist]
  exact ⟨rfl, rfl⟩

/-- Properness of the second list is all that the bare operation does not look at. -/
theorem append?_eq_join? (front : Value) {back : Value} (h : back.tail = emptyList) :
    front.append? back = front.join? back := by
  obtain ⟨others, rfl⟩ : ∃ others, back = ofList others := ⟨_, eq_ofList_iff.mpr ⟨h, rfl⟩⟩
  rw [append?, join?, toList?_ofList]
  cases front.toList? with
  | none => rfl
  | some items => exact congrArg some (ofDotted_append items others emptyList).symm

theorem bind_append?_eq_join? (front back : Value) :
    (back.toList?.bind fun _ => front.append? back) = front.join? back := by
  cases hback : back.toList? with
  | none => rw [Option.bind_none, join?_of_back hback]
  | some others =>
      exact append?_eq_join? front (toList?_eq_some_iff_tail.mp hback).1

theorem typeName_of_isList {value : Value} (h : value.isList = true) :
    value.typeName = "List" := by
  cases value with
  | emptyList | cons => rfl
  | _ => cases h

end Value

section

variable [RegexEngine]

theorem Evaluator.applyAt_concat (fuel : Nat) (front back : Value) :
    applyAt (fuel + 1) (.primitive .concat) [front, back] =
      Eval.ofOption (.expectedList .concat (if front.toList?.isSome then back else front))
        (front.join? back) := by
  change (concatItems [front, back] >>= fun items => pure (Value.ofList items)) = _
  cases hfront : front.toList? with
  | none =>
      simp only [concatItems, items, hfront, Value.join?_of_front hfront]
      rfl
  | some front' =>
      cases hback : back.toList? with
      | none =>
          simp only [concatItems, items, hfront, hback, Value.join?_of_back hback]
          rfl
      | some back' =>
          simp only [concatItems, items, hfront, hback, Value.join?_of_toList? hfront hback,
            Eval.ofOption, pure_bind, List.append_nil]

theorem send_add_lists {front back : Value} (hfront : front.isList = true)
    (hback : back.isList = true) (names : ClosureNames) :
    send names "+" front [back] =
      match front.join? back with
      | some list => .ok list
      | none => .error (.unsupported "+" "List" (some "List")) := by
  change Arithmetic.add "+" front back = _
  unfold Arithmetic.add
  split
  · cases hfront
  · have hlists : (front.isList && back.isList) = true := Bool.and_eq_true_iff.mpr ⟨hfront, hback⟩
    rw [if_pos hlists, Value.bind_append?_eq_join?]
    cases front.join? back with
    | some list => rfl
    | none =>
        simp only [Arithmetic.unsupported, Option.map_some, Value.typeName_of_isList hfront,
          Value.typeName_of_isList hback]

theorem send_length (names : ClosureNames) {list : Value} {items : List Value}
    (h : list.toList? = some items) :
    send names "length" list [] = .ok (.int (.ofNat items.length)) := by
  change Conversion.length "length" list = _
  unfold Conversion.length
  split
  · cases h
  · rw [h]

namespace Value

structure Appending (front back : Value) : Prop where
  join : ∀ list, front.join? back = some list ↔
    front.tail = emptyList ∧ back.tail = emptyList ∧ list = ofList (front.items ++ back.items)
  items : ∀ list, front.join? back = some list →
    list.items = front.items ++ back.items ∧ list.tail = emptyList
  /-- What is shown is the first of the two that is not proper. -/
  concat : ∀ fuel, Evaluator.applyAt (fuel + 1) (.primitive .concat) [front, back] =
    Eval.ofOption (.expectedList .concat (if front.toList?.isSome then back else front))
      (front.join? back)
  add : ∀ names, send names "+" front [back] =
    match front.join? back with
    | some list => .ok list
    | none => .error (.unsupported "+" "List" (some "List"))
  append : back.tail = emptyList → front.append? back = front.join? back
  length : ∀ names list, front.join? back = some list →
    send names "length" front [] = .ok (.int (.ofNat front.items.length)) ∧
    send names "length" back [] = .ok (.int (.ofNat back.items.length)) ∧
    send names "length" list [] = .ok (.int (.ofNat (front.items.length + back.items.length)))

theorem appending {front back : Value} (hfront : front.isList = true)
    (hback : back.isList = true) : Appending front back where
  join _ := join?_eq_some_iff
  items list hjoin := by
    obtain ⟨_, _, rfl⟩ := join?_eq_some_iff.mp hjoin
    exact ⟨items_ofList _, tail_ofList _⟩
  concat fuel := Evaluator.applyAt_concat fuel front back
  add names := send_add_lists hfront hback names
  append := append?_eq_join? front
  length names list hjoin := by
    obtain ⟨hproper, hproper', rfl⟩ := join?_eq_some_iff.mp hjoin
    rw [← List.length_append]
    exact ⟨send_length names (toList?_of_tail hproper),
      send_length names (toList?_of_tail hproper'), send_length names (toList?_ofList _)⟩

theorem lists_append_alike :
    (∀ value, Decomposition value) ∧
      (∀ front back : Value, front.isList = true → back.isList = true → Appending front back) ∧
      (∀ first second third : Value,
        (first.join? second).bind (·.join? third) = (second.join? third).bind first.join?) ∧
      ∀ list : Value, list.tail = emptyList →
        emptyList.join? list = some list ∧ list.join? emptyList = some list :=
  ⟨decomposition, fun _ _ => appending, join?_assoc, fun _ => join?_emptyList⟩

end Value

end

namespace Value

open scoped Pattern

theorem lists_append_alike_nested_items :
    let front := ofList [int 1, int 2]
    let back := ofList [ofList [int 3], nil]
    (front.isList = true ∧ back.isList = true ∧ Appending front back) ∧
      front.join? back = some (ofList [int 1, int 2, ofList [int 3], nil]) ∧
      back.tail = emptyList ∧ emptyList.join? back = some back :=
  ⟨⟨rfl, rfl, lists_append_alike.2.1 _ _ rfl rfl⟩, rfl, rfl,
    (lists_append_alike.2.2.2 _ rfl).1⟩

end Value

end Lisplet
