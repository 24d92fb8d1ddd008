import Lisplet.Value

namespace Lisplet

/-! Regular expressions are compiled and looked for by an engine, which the program takes as it is
given. -/

/-- What the options of a literal ask for. -/
structure RegexSettings where
  ignoreCase : Bool
  dotAll : Bool
  extended : Bool
deriving DecidableEq, Repr

class RegexEngine where
  /-- What finds the place, in characters, where the first match in a text starts; or else a message
  about the source. -/
  compile (source : String) (settings : RegexSettings) : Except String (String → Option Nat)

namespace Regex

def settings (regex : Regex) : RegexSettings where
  ignoreCase := 'i' ∈ regex.options.toList
  dotAll := 'm' ∈ regex.options.toList
  extended := 'x' ∈ regex.options.toList

variable [RegexEngine]

def compile (regex : Regex) : Except String (String → Option Nat) :=
  RegexEngine.compile regex.source regex.settings

def find? (regex : Regex) (text : String) : Option Nat :=
  match regex.compile with
  | .ok find => find text
  | .error _ => none

end Regex

end Lisplet
