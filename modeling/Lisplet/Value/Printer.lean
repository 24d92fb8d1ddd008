import Lisplet.Number.Text
import Lisplet.Text.StringLiteral
import Lisplet.Value.List

namespace Lisplet

/-! The names closures were given, in the order in which the closures were made. -/

structure ClosureNames where
  names : Array (Option Symbol)
deriving Inhabited

namespace ClosureNames

def empty : ClosureNames :=
  ⟨#[]⟩

def next (names : ClosureNames) : Nat :=
  names.names.size

def get? (names : ClosureNames) (id : Nat) : Option Symbol :=
  names.names[id]?.join

def push (names : ClosureNames) : ClosureNames :=
  ⟨names.names.push none⟩

/-- Only the first name counts. -/
def assign (names : ClosureNames) (id : Nat) (name : Symbol) : ClosureNames :=
  match names.get? id with
  | some _ => names
  | none => ⟨names.names.setIfInBounds id (some name)⟩

end ClosureNames

def Parameters.text (parameters : Parameters) : String :=
  "(" ++ " ".intercalate (parameters.symbols.map Symbol.name) ++ ")"

def ClosureKind.head (kind : ClosureKind) (name : Option Symbol) : String :=
  match kind, name with
  | _, none => kind.name
  | .function, some name => "defn " ++ name.name
  | .expander, some name => "defmacro " ++ name.name

namespace Value

/-- Where a value stands while it is printed: on its own, or as what follows the items of a list. -/
inductive Position where
  | alone | following
deriving DecidableEq

def Position.place : Position → String → String
  | alone, text => text
  | following, text => " . " ++ text

/-- The text that `inspect` gives, or the rest of the text of the list that the value ends. -/
def write (names : ClosureNames) : Position → Value → String
  | position, nil => position.place "nil"
  | position, bool value => position.place (if value then "true" else "false")
  | position, int value => position.place (NumberText.ofInt value)
  | position, float value => position.place (NumberText.ofFloat NumberText.readable value)
  | position, str text => position.place (StringLiteral.write text)
  | position, symbol name => position.place name.name
  | position, keyword name => position.place (":" ++ name)
  | position, regex literal => position.place ("/" ++ literal.source ++ "/" ++ literal.options)
  | .alone, emptyList => "()"
  | .following, emptyList => ""
  | .alone, cons (symbol head) (cons operand emptyList) =>
      match Sugar.ofSymbol? head with
      | some sugar => sugar.mark ++ write names .alone operand
      | none => "(" ++ head.name ++ " " ++ write names .alone operand ++ ")"
  | .alone, cons first rest =>
      "(" ++ write names .alone first ++ write names .following rest ++ ")"
  | .following, cons first rest =>
      " " ++ write names .alone first ++ write names .following rest
  | position, closure id kind parameters body _ =>
      position.place <|
        "(" ++ kind.head (names.get? id) ++ " " ++ parameters.text ++
          write names .following body ++ ")"
  | position, primitive function => position.place ("#<primitive " ++ function.name ++ ">")
  | position, special form => position.place ("#<special-form " ++ form.name ++ ">")

def inspect (names : ClosureNames) (value : Value) : String :=
  value.write names .alone

/-- The text of a value for people: a string or a keyword is its bare characters. -/
def display (names : ClosureNames) : Value → String
  | str text => text
  | keyword name => name
  | value => value.inspect names

theorem inspect_quotation (names : ClosureNames) (sugar : Sugar) (operand : Value) :
    (ofList [symbol sugar.symbol, operand]).inspect names =
      sugar.mark ++ operand.inspect names := by
  change (match Sugar.ofSymbol? sugar.symbol with
    | some sugar => sugar.mark ++ operand.write names .alone
    | none => _) = _
  rw [Sugar.ofSymbol?_symbol]
  rfl

theorem inspect_cons (names : ClosureNames) {first rest : Value}
    (h : ∀ sugar : Sugar, (cons first rest).isTagged sugar.symbol = false) :
    (cons first rest).inspect names =
      "(" ++ first.inspect names ++ rest.write names .following ++ ")" := by
  by_cases hshape : ∃ head operand, first = symbol head ∧ rest = cons operand emptyList
  · obtain ⟨head, operand, rfl, rfl⟩ := hshape
    have hnone : Sugar.ofSymbol? head = none := by
      refine Option.eq_none_iff_forall_ne_some.mpr fun sugar hsugar => ?_
      have hplain := h sugar
      rw [isTagged, Sugar.symbol_of_ofSymbol? hsugar] at hplain
      simp at hplain
    simp [inspect, write, hnone, Position.place, String.append_assoc]
  · rw [inspect, write]
    · rfl
    · exact fun head operand hfirst hrest => hshape ⟨head, operand, hfirst, hrest⟩

end Value

end Lisplet
