import FieldRules.Json.Basic
import FieldRules.Text.Quoted

/-!
Functions that schemas refer to by name.
-/

namespace FieldRules

/-- Named arguments that a schema gives to a function. -/
abbrev Attributes := OrderedMap Json

/-- Why a function refuses a value, in words for the reader of a report. -/
abbrev Complaint := String

/-- A function that accepts a value or refuses it. -/
abbrev Validator := Json → Attributes → Except Complaint Unit

/-- A function that gives a new value, leaves the value as it is (`none`), or cannot give one. -/
abbrev Operator := Json → Attributes → Except Complaint (Option Json)

/-- Functions by name, in the order of their registration. A name that is registered again keeps its
place and gets the new function. -/
abbrev Registry (Function : Type) := OrderedMap Function

namespace Registry

variable {Function : Type}

def register (registry : Registry Function) (name : String) (function : Function) :
    Registry Function :=
  registry.insert name function

/-- The names as they are shown for inspection, behind the name of the registry's kind. -/
def describe (registry : Registry Function) (kind : String) : String :=
  kind ++ " \x7b names: [" ++ ", ".intercalate (registry.keys.map Text.quote) ++ "] \x7d"

end Registry

namespace Complaint

/-- An attribute is missing or of another kind. -/
def badAttribute (name wanted : String) : Complaint :=
  s!"attribute '{name}' is missing or is not {wanted}"

/-- A value is of another kind. -/
def expected (wanted : String) (v : Json) : Complaint :=
  s!"expected a {wanted}, found " ++ v.kind.name

end Complaint

end FieldRules
