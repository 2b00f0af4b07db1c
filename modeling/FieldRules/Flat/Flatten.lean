import FieldRules.Flat.Path
import FieldRules.Json.Basic

/-!
The flat view of a value: its terminals, each under the path that leads to it.
-/

namespace FieldRules

/-- Terminals under their paths, in document order. -/
abbrev FlatView := OrderedMap Json

namespace Json

mutual

/-- The terminals below a path, each with its own path. A terminal that is no container, or an
empty one, stands for itself. -/
def terminals (separator path : String) : Json → List (String × Json)
  | .array (item :: rest) => itemTerminals separator path 0 (item :: rest)
  | .object (member :: rest) => memberTerminals separator path (member :: rest)
  | v => [(path, v)]

def itemTerminals (separator path : String) (position : Nat) : List Json → List (String × Json)
  | [] => []
  | item :: rest =>
    terminals separator (Path.join path (Path.ofIndex position) separator) item ++
      itemTerminals separator path (position + 1) rest

def memberTerminals (separator path : String) : List (String × Json) → List (String × Json)
  | [] => []
  | (key, value) :: rest =>
    terminals separator (Path.join path key separator) value ++
      memberTerminals separator path rest

end

/-- The flat view of a value below a path. Where two terminals share a path, the later one is kept
at the earlier one's place. -/
def flattenBelow (path separator : String) (v : Json) : FlatView :=
  .ofList (terminals separator path v)

def flatten (separator : String) (v : Json) : FlatView := v.flattenBelow "" separator

end Json

end FieldRules
