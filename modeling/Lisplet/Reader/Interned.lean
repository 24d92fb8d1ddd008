import Lisplet.Reader.Datum
import Lisplet.Value.Object

namespace Lisplet.Reader

/-! The reader with symbols by identity. What it reads it interns, except for the symbols of
quotation marks, which it has from its own names. -/

structure Desk where
  cursor : Cursor
  interner : Interner

abbrev Interning := EStateM Error Desk

namespace Interning

/-- A part of the reader that makes no symbol. -/
def plain (scan : Scan α) : Interning α := fun desk =>
  match scan desk.cursor with
  | .ok value cursor => .ok value { desk with cursor }
  | .error error cursor => .error error { desk with cursor }

def meet (name : String) : Interning Object :=
  modifyGet fun desk =>
    let (handle, interner) := Interner.intern name desk.interner
    (.symbol handle,
      { cursor := { desk.cursor with met := ⟨name⟩ :: desk.cursor.met }, interner })

def atom (start : List Char) : Interning Object := do
  match atomOfToken (start ++ (← plain takeToken)) with
  | .symbol symbol => meet symbol.name
  | value => return .ofAtom value

def literal (scan : Scan Value) : Interning Object := do
  return .ofAtom (← plain scan)

def keyword : Interning Object := do
  if (← plain peek) = some ':' then
    let _ ← plain take
    atom [':', ':']
  else
    let name ← plain takeToken
    if name = [] then throw .emptyKeyword
    return .keyword (String.ofList name)

variable [RegexEngine]

def slash : Interning Object := do
  if isTerminator (← plain peek) then meet "/" else literal (regex '/')

def percent : Interning Object := do
  if (← plain peek) = some 'r' then
    let _ ← plain take
    if (← plain peek) = some '\x7b' then
      let _ ← plain take
      literal (regex '\x7d')
    else atom ['%', 'r']
  else atom ['%']

section Names

variable (names : Names)

def quoted (datum : Expected → Interning Object) (sugar : Sugar) : Interning Object := do
  let operand ← datum (.operand sugar)
  return .ofList [.symbol (names.sugar sugar), operand]

def template (datum : Expected → Interning Object) : Interning Object := do
  let operand ← datum (.operand .quasiquote)
  if operand.isTagged names.splice then throw .spliceOutsideList
  return .ofList [.symbol names.quasiquote, operand]

def unquoted (datum : Expected → Interning Object) : Interning Object := do
  if (← plain peek) = some '@' then
    let _ ← plain take
    quoted names datum .splice
  else quoted names datum .unquote

def marked (datum : Expected → Interning Object) (list : Interning Object) :
    Char → Interning Object
  | '(' => list
  | '"' => literal string
  | ':' => keyword
  | '\'' => quoted names datum .quote
  | '\x60' => template names datum
  | '~' | ',' => unquoted names datum
  | '/' => slash
  | '%' => percent
  | c => atom [c]

def begins (datum : Expected → Interning Object) (list : Interning Object) (c : Char) :
    Interning Object := do
  let following ← plain peek
  if c = ')' then throw .strayClose
  else if c = '.' ∧ isTerminator following then throw .dotOutsidePair
  else if NumberText.isDigit c ∨ ((c = '+' ∨ c = '-') ∧ following.any NumberText.isDigit) then
    literal (number c)
  else marked names datum list c

mutual

def datum : Nat → Expected → Interning Object
  | 0, expected => throw (.unexpectedEnd expected)
  | fuel + 1, expected => do
      match ← plain takeVisible with
      | none => throw (.unexpectedEnd expected)
      | some c => begins names (datum fuel) (list fuel []) c

def list : Nat → List Object → Interning Object
  | 0, _ => throw (.unexpectedEnd .list)
  | fuel + 1, items => do
      match ← plain takeVisible with
      | none => throw (.unexpectedEnd .list)
      | some ')' => return .ofList items.reverse
      | some c =>
          let following ← plain peek
          if c = '.' ∧ following = none then throw (.unexpectedEnd .dottedPair)
          else if c = '.' ∧ following.any isWhitespace then
            if items.isEmpty then throw .dotOutsidePair
            let tail ← datum fuel .dottedPair
            plain closePair
            return .ofDotted items.reverse tail
          else
            let item ← begins names (datum fuel) (list fuel []) c
            list fuel (item :: items)

end

def run (scan : Interning α) (text : List Char) : StateM Interner (Reading α) := fun interner =>
  match EStateM.run scan ⟨⟨text, []⟩, interner⟩ with
  | .ok value desk => (⟨.ok value, desk.cursor.rest, desk.cursor.met.reverse⟩, desk.interner)
  | .error error desk => (⟨.error error, desk.cursor.rest, desk.cursor.met.reverse⟩, desk.interner)

def require (text : List Char) : StateM Interner (Reading Object) :=
  run (datum names (enough text) .datum) text

def read (text : List Char) : StateM Interner (Reading (Option Object)) := do
  if dropLayout false text = [] then return ⟨.ok none, [], []⟩
  let reading ← require names text
  return ⟨reading.outcome.map some, reading.rest, reading.met⟩

end Names

end Interning

end Lisplet.Reader
