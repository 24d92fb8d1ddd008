import Lisplet.Reader.Stream

namespace Lisplet.Reader

/-! The reader at its work: it draws the characters of a text one by one, and to see what comes next
it draws a character and puts it back. -/

inductive Access where
  | drawn (c : Option Char)
  | putBack (c : Char)
deriving DecidableEq

structure Tape where
  text : List Char
  /-- The number of characters taken. -/
  place : Nat := 0
  lineStart : Bool := true
  /-- What `lineStart` was before the last access that drew. -/
  lineStartBefore : Bool := true
  met : List Symbol := []
  /-- What was done to the text, last access first. -/
  accesses : List Access := []

inductive Halt where
  | error (error : Error)
  | misplaced
  | outOfSteps

abbrev Pull := EStateM Halt Tape

namespace Tape

def unread (tape : Tape) : List Char :=
  tape.text.drop tape.place

def fail (error : Error) : Pull α :=
  throw (.error error)

def draw : Pull (Option Char) := do
  let tape ← get
  match tape.text[tape.place]? with
  | none =>
      set { tape with
        lineStartBefore := tape.lineStart
        accesses := .drawn none :: tape.accesses }
      return none
  | some c =>
      set { tape with
        place := tape.place + 1
        lineStart := c = '\n'
        lineStartBefore := tape.lineStart
        accesses := .drawn c :: tape.accesses }
      return some c

def putBack (c : Char) : Pull Unit := do
  let tape ← get
  if 0 < tape.place ∧ tape.text[tape.place - 1]? = some c then
    set { tape with
      place := tape.place - 1
      lineStart := tape.lineStartBefore
      accesses := .putBack c :: tape.accesses }
  else throw .misplaced

def peek : Pull (Option Char) := do
  match ← draw with
  | some c =>
      putBack c
      return some c
  | none => return none

def meet (value : Value) : Pull Value := do
  match value with
  | .symbol symbol => modify fun tape => { tape with met := symbol :: tape.met }
  | _ => pure ()
  return value

/-! Loops over characters. Each step but the last one takes a character, so that the number of steps
is bounded by the length of the text. -/

def drawInk : Nat → Pull (Option Char)
  | 0 => throw .outOfSteps
  | steps + 1 => do
      match ← draw with
      | some c => if isWhitespace c then drawInk steps else return some c
      | none => return none

def skipComment : Nat → Pull Unit
  | 0 => throw .outOfSteps
  | steps + 1 => do
      match ← draw with
      | some c => if c = '\n' then return () else skipComment steps
      | none => return ()

/-- The characters up to the end of a token; the one that ends it is put back. -/
def token : Nat → Pull (List Char)
  | 0 => throw .outOfSteps
  | steps + 1 => do
      match ← draw with
      | some c =>
          if isTerminator (some c) then
            putBack c
            return []
          else return c :: (← token steps)
      | none => return []

def enclosed (close : Char) (pair : Char → List Char) (unterminated : Error) :
    Nat → Pull (List Char)
  | 0 => throw .outOfSteps
  | steps + 1 => do
      match ← draw with
      | none => fail unterminated
      | some c =>
          if c = close then return []
          else if c = '\\' then
            match ← draw with
            | none => fail unterminated
            | some letter => return pair letter ++ (← enclosed close pair unterminated steps)
          else return c :: (← enclosed close pair unterminated steps)

def skipBlankLine : Nat → Pull Bool
  | 0 => throw .outOfSteps
  | steps + 1 => do
      match ← draw with
      | none => return false
      | some c =>
          if c = '\n' then return true
          else if isWhitespace c then skipBlankLine steps
          else
            putBack c
            return false

def atom (steps : Nat) (start : List Char) : Pull Value := do
  meet (atomOfToken (start ++ (← token steps)))

def number (steps : Nat) (first : Char) : Pull Value := do
  let token := first :: (← token steps)
  match numberOfToken? token with
  | some value => return value
  | none => fail (.badNumber (String.ofList token))

def string (steps : Nat) : Pull Value := do
  let text ← enclosed '"' StringLiteral.readPair .unterminatedString steps
  return .str (String.ofList text)

def keywordName (steps : Nat) : Pull Value := do
  let name ← token steps
  if name = [] then fail .emptyKeyword
  else return .keyword (String.ofList name)

def keyword (steps : Nat) : Pull Value := do
  match ← draw with
  | some c =>
      if c = ':' then atom steps [':', ':']
      else
        putBack c
        keywordName steps
  | none => keywordName steps

variable [RegexEngine]

def regex (steps : Nat) (close : Char) : Pull Value := do
  let source ← enclosed close (regexPair close) .unterminatedRegex steps
  let options ← token steps
  match options.find? (fun option => !isRegexOption option) with
  | some option => fail (.unknownRegexOption option)
  | none =>
      match Regex.compile ⟨String.ofList source, String.ofList options⟩ with
      | .error message => fail (.badRegex message)
      | .ok _ => return .regex ⟨String.ofList source, String.ofList options⟩

def slash (steps : Nat) : Pull Value := do
  if isTerminator (← peek) then meet (atomOfToken ['/']) else regex steps '/'

def percentLetter (steps : Nat) : Pull Value := do
  match ← draw with
  | some c =>
      if c = '\x7b' then regex steps '\x7d'
      else
        putBack c
        atom steps ['%', 'r']
  | none => meet (atomOfToken ['%', 'r'])

def percent (steps : Nat) : Pull Value := do
  match ← draw with
  | some c =>
      if c = 'r' then percentLetter steps
      else
        putBack c
        atom steps ['%']
  | none => meet (atomOfToken ['%'])

/-! Data that hold others; `required` reads a datum that must be there. -/

def quoted (required : Expected → Pull Value) (sugar : Sugar) : Pull Value := do
  let operand ← required (.operand sugar)
  return Value.ofList [.symbol sugar.symbol, operand]

def template (required : Expected → Pull Value) : Pull Value := do
  let operand ← required (.operand .quasiquote)
  if operand.isTagged Sugar.splice.symbol then fail .spliceOutsideList
  else return Value.ofList [.symbol Sugar.quasiquote.symbol, operand]

def unquoted (required : Expected → Pull Value) : Pull Value := do
  match ← draw with
  | some c =>
      if c = '@' then quoted required .splice
      else
        putBack c
        quoted required .unquote
  | none => fail (.unexpectedEnd (.operand .unquote))

def marked (required : Expected → Pull Value) (list : Pull Value) (steps : Nat) (c : Char) :
    Pull Value :=
  match c with
  | '(' => list
  | '"' => string steps
  | ':' => keyword steps
  | '\'' => quoted required .quote
  | '\x60' => template required
  | '~' | ',' => unquoted required
  | '/' => slash steps
  | '%' => percent steps
  | c => atom steps [c]

/-- Whether the character is a dot and what comes next is such; behind any other character nothing
is looked at. -/
def isDotBefore (next : Option Char → Bool) (c : Char) : Pull Bool := do
  if c = '.' then return next (← peek) else return false

/-- Whether a number begins with the character; only behind a sign it takes another look. -/
def beginsNumber (c : Char) : Pull Bool := do
  if NumberText.isDigit c then return true
  else if c = '+' ∨ c = '-' then return (← peek).any NumberText.isDigit
  else return false

/-- The datum that begins with a character already drawn, or `none` for a comment. -/
def begins (required : Expected → Pull Value) (list : Pull Value) (steps : Nat) (c : Char) :
    Pull (Option Value) := do
  if c = ')' then fail .strayClose
  else if ← isDotBefore isTerminator c then fail .dotOutsidePair
  else if ← beginsNumber c then return some (← number steps c)
  else if c = ';' then
    skipComment steps
    return none
  else return some (← marked required list steps c)

def closePair : Nat → Pull Unit
  | 0 => throw .outOfSteps
  | steps + 1 => do
      match ← drawInk (steps + 1) with
      | none => fail (.unexpectedEnd .dottedPair)
      | some c =>
          if c = ')' then return ()
          else if c = ';' then
            skipComment steps
            closePair steps
          else fail .badDottedTail

def orMissing (expected : Expected) : Option Value → Pull Value
  | some value => return value
  | none => fail (.unexpectedEnd expected)

mutual

def seek : Nat → Pull (Option Value)
  | 0 => throw .outOfSteps
  | steps + 1 => do
      match ← drawInk (steps + 1) with
      | none => return none
      | some c =>
          match ← begins (fun expected => seek steps >>= orMissing expected) (list steps []) steps c
          with
          | some value => return some value
          | none => seek steps

def list : Nat → List Value → Pull Value
  | 0, _ => throw .outOfSteps
  | steps + 1, items => do
      match ← drawInk (steps + 1) with
      | none => fail (.unexpectedEnd .list)
      | some c =>
          if c = ')' then return Value.ofList items.reverse
          else if ← isDotBefore Option.isNone c then fail (.unexpectedEnd .dottedPair)
          else if ← isDotBefore (Option.any isWhitespace) c then
            if items.isEmpty then fail .dotOutsidePair
            else
              let tail ← seek steps >>= orMissing .dottedPair
              closePair steps
              return Value.ofDotted items.reverse tail
          else
            match ← begins (fun expected => seek steps >>= orMissing expected) (list steps [])
              steps c with
            | some item => list steps (item :: items)
            | none => list steps items

end

def all : Nat → Pull (List Value)
  | 0 => throw .outOfSteps
  | steps + 1 => do
      match ← seek (steps + 1) with
      | some value => return value :: (← all steps)
      | none => return []

def ofText (text : List Char) : Tape where
  text

def enough (tape : Tape) : Nat :=
  tape.unread.length + 1

/-- What comes of reading, unless a character was misplaced or the steps did not suffice. -/
def run? (pull : Pull α) (tape : Tape) : Option (Reading α × Tape) :=
  match EStateM.run pull { tape with met := [] } with
  | .ok value tape => some (⟨.ok value, tape.unread, tape.met.reverse⟩, tape)
  | .error (.error error) tape => some (⟨.error error, tape.unread, tape.met.reverse⟩, tape)
  | .error _ _ => none

end Tape

inductive Call where
  | next
  | nextRequired
  | remaining
  | skipBlankLine

inductive Answer where
  | next (reading : Reading (Option Value))
  | nextRequired (reading : Reading Value)
  | remaining (reading : Reading (List Value))
  | skipBlankLine (skipped : Bool)

variable [RegexEngine]

def answer (reader : Reader) : Call → Answer × Reader
  | .next => (.next reader.next.1, reader.next.2)
  | .nextRequired => (.nextRequired reader.nextRequired.1, reader.nextRequired.2)
  | .remaining => (.remaining reader.remaining.1, reader.remaining.2)
  | .skipBlankLine => (.skipBlankLine reader.skipBlankLine.1, reader.skipBlankLine.2)

def answers : List Call → Reader → List Answer × Reader
  | [], reader => ([], reader)
  | call :: calls, reader =>
      let first := reader.answer call
      let later := answers calls first.2
      (first.1 :: later.1, later.2)

namespace Tape

def answer? (tape : Tape) : Call → Option (Answer × Tape)
  | .next => (run? (seek tape.enough) tape).map fun result => (.next result.1, result.2)
  | .nextRequired =>
      (run? (seek tape.enough >>= orMissing .datum) tape).map fun result =>
        (.nextRequired result.1, result.2)
  | .remaining => (run? (all tape.enough) tape).map fun result => (.remaining result.1, result.2)
  | .skipBlankLine =>
      match EStateM.run (skipBlankLine tape.enough) tape with
      | .ok skipped tape => some (.skipBlankLine skipped, tape)
      | .error _ _ => none

def answers? : List Call → Tape → Option (List Answer × Tape)
  | [], tape => some ([], tape)
  | call :: calls, tape => do
      let (first, tape) ← tape.answer? call
      let (later, tape) ← answers? calls tape
      return (first :: later, tape)

end Tape

end Lisplet.Reader
