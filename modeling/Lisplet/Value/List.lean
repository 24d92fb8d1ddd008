import Lisplet.Value

namespace Lisplet.Value

/-! A value is read as a list along its `rest` parts: some items and a tail that is not a pair. -/

def ofDotted : List Value → Value → Value
  | [], tail => tail
  | first :: items, tail => cons first (ofDotted items tail)

def ofList (items : List Value) : Value :=
  ofDotted items emptyList

def items : Value → List Value
  | cons first rest => first :: rest.items
  | _ => []

def tail : Value → Value
  | cons _ rest => rest.tail
  | value => value

def toList? : Value → Option (List Value)
  | emptyList => some []
  | cons first rest => rest.toList?.map (first :: ·)
  | _ => none

def isList : Value → Bool
  | emptyList | cons _ _ => true
  | _ => false

def isPair : Value → Bool
  | cons _ _ => true
  | _ => false

/-- The empty list has `nil` as its first item. -/
def first? : Value → Option Value
  | cons first _ => some first
  | emptyList => some nil
  | _ => none

/-- The empty list is its own rest. -/
def rest? : Value → Option Value
  | cons _ rest => some rest
  | emptyList => some emptyList
  | _ => none

def append? (front back : Value) : Option Value :=
  front.toList?.map (ofDotted · back)

def isTagged (tag : Symbol) : Value → Bool
  | cons (symbol head) (cons _ emptyList) => head = tag
  | _ => false

@[simp] theorem ofDotted_nil (tail : Value) : ofDotted [] tail = tail := rfl

@[simp] theorem ofDotted_cons (first : Value) (items : List Value) (tail : Value) :
    ofDotted (first :: items) tail = cons first (ofDotted items tail) := rfl

theorem ofDotted_append (front back : List Value) (tail : Value) :
    ofDotted (front ++ back) tail = ofDotted front (ofDotted back tail) := by
  induction front with
  | nil => rfl
  | cons first front ih => simp [ih]

@[simp] theorem ofDotted_items_tail (value : Value) : ofDotted value.items value.tail = value := by
  induction value with
  | cons first rest _ ih => simp [items, tail, ih]
  | _ => rfl

theorem isPair_tail (value : Value) : value.tail.isPair = false := by
  induction value with
  | cons _ _ _ ih => exact ih
  | _ => rfl

theorem items_of_not_pair {value : Value} (h : value.isPair = false) : value.items = [] := by
  cases value <;> first | rfl | simp [isPair] at h

theorem tail_of_not_pair {value : Value} (h : value.isPair = false) : value.tail = value := by
  cases value <;> first | rfl | simp [isPair] at h

theorem items_ofDotted (items : List Value) {tail : Value} (h : tail.isPair = false) :
    (ofDotted items tail).items = items := by
  induction items with
  | nil => exact items_of_not_pair h
  | cons first items ih => simp [Value.items, ih]

theorem tail_ofDotted (items : List Value) {tail : Value} (h : tail.isPair = false) :
    (ofDotted items tail).tail = tail := by
  induction items with
  | nil => exact tail_of_not_pair h
  | cons first items ih => simp [Value.tail, ih]

@[simp] theorem items_ofList (items : List Value) : (ofList items).items = items :=
  items_ofDotted items rfl

@[simp] theorem tail_ofList (items : List Value) : (ofList items).tail = emptyList :=
  tail_ofDotted items rfl

@[simp] theorem toList?_ofList (items : List Value) : (ofList items).toList? = some items := by
  induction items with
  | nil => rfl
  | cons first items ih =>
      change (ofList items).toList?.map (first :: ·) = some (first :: items)
      simp [ih]

theorem toList?_eq_some_iff {value : Value} {items : List Value} :
    value.toList? = some items ↔ value = ofList items := by
  constructor
  · intro h
    induction value generalizing items with
    | emptyList =>
        cases h
        rfl
    | cons first rest _ ih =>
        obtain ⟨others, hothers, rfl⟩ := Option.map_eq_some_iff.mp h
        rw [ih hothers]
        rfl
    | _ => cases h
  · rintro rfl
    exact toList?_ofList items

end Lisplet.Value
