import Lisplet.Error
import Lisplet.Reader.Token
import Lisplet.Regex.Engine

namespace Lisplet.Reader

/-! One datum from the front of a text. Whatever happens, the characters looked at and the symbols
met on the way are kept. -/

structure Cursor where
  rest : List Char
  /-- The symbols met, last one first. -/
  met : List Symbol := []

abbrev Scan := EStateM Error Cursor

def peek : Scan (Option Char) :=
  return (← get).rest.head?

def moveTo (rest : List Char) : Scan Unit :=
  modify fun cursor => { cursor with rest := rest }

def take : Scan (Option Char) := do
  match (← get).rest with
  | [] => return none
  | c :: rest =>
      moveTo rest
      return some c

def takeVisible : Scan (Option Char) := do
  moveTo (dropLayout false (← get).rest)
  take

def takeToken : Scan (List Char) := do
  let rest := (← get).rest
  moveTo (rest.dropWhile isTokenChar)
  return rest.takeWhile isTokenChar

def meet (value : Value) : Scan Value := do
  match value with
  | .symbol symbol => modify fun cursor => { cursor with met := symbol :: cursor.met }
  | _ => pure ()
  return value

def atom (start : List Char) : Scan Value := do
  meet (atomOfToken (start ++ (← takeToken)))

def number (first : Char) : Scan Value := do
  let token := first :: (← takeToken)
  match numberOfToken? token with
  | some value => return value
  | none => throw (.badNumber (String.ofList token))

def string : Scan Value := do
  match StringLiteral.readBody (← get).rest with
  | some (text, rest) =>
      moveTo rest
      return .str (String.ofList text)
  | none =>
      moveTo []
      throw .unterminatedString

def keyword : Scan Value := do
  if (← peek) = some ':' then
    let _ ← take
    atom [':', ':']
  else
    let name ← takeToken
    if name = [] then throw .emptyKeyword
    return .keyword (String.ofList name)

variable [RegexEngine]

def regex (close : Char) : Scan Value := do
  match regexBody close (← get).rest with
  | none =>
      moveTo []
      throw .unterminatedRegex
  | some (source, rest) =>
      moveTo rest
      let options ← takeToken
      match options.find? (fun option => !isRegexOption option) with
      | some option => throw (.unknownRegexOption option)
      | none =>
          match Regex.compile ⟨String.ofList source, String.ofList options⟩ with
          | .error message => throw (.badRegex message)
          | .ok _ => return .regex ⟨String.ofList source, String.ofList options⟩

def slash : Scan Value := do
  if isTerminator (← peek) then meet (.symbol ⟨"/"⟩) else regex '/'

def percent : Scan Value := do
  if (← peek) = some 'r' then
    let _ ← take
    if (← peek) = some '\x7b' then
      let _ ← take
      regex '\x7d'
    else atom ['%', 'r']
  else atom ['%']

def quoted (datum : Expected → Scan Value) (sugar : Sugar) : Scan Value := do
  let operand ← datum (.operand sugar)
  return Value.ofList [.symbol sugar.symbol, operand]

/-- A template must not be a splice, for there is no list around it. -/
def template (datum : Expected → Scan Value) : Scan Value := do
  let operand ← datum (.operand .quasiquote)
  if operand.isTagged Sugar.splice.symbol then throw .spliceOutsideList
  return Value.ofList [.symbol Sugar.quasiquote.symbol, operand]

def unquoted (datum : Expected → Scan Value) : Scan Value := do
  if (← peek) = some '@' then
    let _ ← take
    quoted datum .splice
  else quoted datum .unquote

/-- The datum that begins with a character already taken; `datum` and `list` read what it holds. -/
def begins (datum : Expected → Scan Value) (list : Scan Value) (c : Char) : Scan Value := do
  let following ← peek
  if c = ')' then throw .strayClose
  else if c = '.' ∧ isTerminator following then throw .dotOutsidePair
  else if NumberText.isDigit c ∨ ((c = '+' ∨ c = '-') ∧ following.any NumberText.isDigit) then
    number c
  else
    match c with
    | '(' => list
    | '"' => string
    | ':' => keyword
    | '\'' => quoted datum .quote
    | '\x60' => template datum
    | '~' | ',' => unquoted datum
    | '/' => slash
    | '%' => percent
    | c => atom [c]

/-- What follows the tail of a dotted pair can only be its end. -/
def closePair : Scan Unit := do
  match ← takeVisible with
  | some ')' => return ()
  | some _ => throw .badDottedTail
  | none => throw (.unexpectedEnd .dottedPair)

mutual

/-- A datum that must be there. Each level of nesting and each item takes a character of the text,
so its length bounds the steps. -/
def datum : Nat → Expected → Scan Value
  | 0, expected => throw (.unexpectedEnd expected)
  | fuel + 1, expected => do
      match ← takeVisible with
      | none => throw (.unexpectedEnd expected)
      | some c => begins (datum fuel) (list fuel []) c

/-- The rest of a list whose first items, last one first, are already read. -/
def list : Nat → List Value → Scan Value
  | 0, _ => throw (.unexpectedEnd .list)
  | fuel + 1, items => do
      match ← takeVisible with
      | none => throw (.unexpectedEnd .list)
      | some ')' => return Value.ofList items.reverse
      | some c =>
          let following ← peek
          if c = '.' ∧ following = none then throw (.unexpectedEnd .dottedPair)
          else if c = '.' ∧ following.any isWhitespace then
            if items.isEmpty then throw .dotOutsidePair
            let tail ← datum fuel .dottedPair
            closePair
            return Value.ofDotted items.reverse tail
          else
            let item ← begins (datum fuel) (list fuel []) c
            list fuel (item :: items)

end

structure Reading (α : Type) where
  outcome : Except Error α
  rest : List Char
  met : List Symbol

def Scan.run (scan : Scan α) (text : List Char) : Reading α :=
  match EStateM.run scan ⟨text, []⟩ with
  | .ok value cursor => ⟨.ok value, cursor.rest, cursor.met.reverse⟩
  | .error error cursor => ⟨.error error, cursor.rest, cursor.met.reverse⟩

def enough (text : List Char) : Nat :=
  text.length + 1

/-- The first datum, or `none` if only whitespace and comments are left. -/
def read (text : List Char) : Reading (Option Value) :=
  if dropLayout false text = [] then ⟨.ok none, [], []⟩
  else Scan.run (some <$> datum (enough text) .datum) text

def require (text : List Char) : Reading Value :=
  Scan.run (datum (enough text) .datum) text

/-- Up to the given number of data; a failure keeps none of them. -/
def readMany : Nat → List Char → Reading (List Value)
  | 0, text => ⟨.ok [], text, []⟩
  | fuel + 1, text =>
      match read text with
      | ⟨.error error, rest, met⟩ => ⟨.error error, rest, met⟩
      | ⟨.ok none, rest, met⟩ => ⟨.ok [], rest, met⟩
      | ⟨.ok (some value), rest, met⟩ =>
          let more := readMany fuel rest
          ⟨more.outcome.map (value :: ·), more.rest, met ++ more.met⟩

def readAll (text : List Char) : Reading (List Value) :=
  readMany (enough text) text

end Lisplet.Reader
