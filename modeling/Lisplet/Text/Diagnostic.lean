import Lisplet.Text.Property

namespace Lisplet.Diagnostic

/-! Texts quoted inside a message: what cannot be seen on its own is written as an escape. -/

/-- A character that attaches to the one before it has no shape of its own, and a filler none
at all. -/
def isShown (c : Char) : Bool :=
  CharProperty.isPrintable c && !CharProperty.isGraphemeExtend c && !CharProperty.isFiller c

def escapeChar (c : Char) : List Char :=
  if c = '\x00' then ['\\', '0']
  else if c = '\t' then ['\\', 't']
  else if c = '\r' then ['\\', 'r']
  else if c = '\n' then ['\\', 'n']
  else if c = '"' ∨ c = '\\' then ['\\', c]
  else if isShown c then [c]
  else ['\\', 'u', '\x7b'] ++ Nat.toDigits 16 c.toNat ++ ['\x7d']

def escapeText (text : List Char) : List Char :=
  text.flatMap escapeChar

def quote (text : String) : String :=
  String.ofList ('"' :: escapeText text.toList ++ ['"'])

end Lisplet.Diagnostic
