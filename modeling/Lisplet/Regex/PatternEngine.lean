import Lisplet.Regex.Engine
import Lisplet.Regex.Matching
import Lisplet.Regex.Parser

namespace Lisplet.Pattern

/-- The engine that the patterns make up; of a source that it refuses it says one thing only. -/
scoped instance engine : RegexEngine where
  compile source settings :=
    let flags : PatternSyntax.Flags :=
      { ignoreCase := settings.ignoreCase, dotAll := settings.dotAll,
        extended := settings.extended }
    match ofText? source.toList flags with
    | some pattern => .ok fun text => pattern.find? text.toList
    | none => .error "malformed or too large"

end Lisplet.Pattern
