import FieldRules.Json.Basic

/-!
The failures that end a call, by cause, and their wording.
-/

namespace FieldRules

/-- What can be wrong with the settings of an engine or with a field rule. -/
inductive SettingFault where
  | emptySeparator
  | blankLocale
  | emptyIdKey
  | emptyTarget
  /-- The dependency at a position of a rule's list. -/
  | emptyDependency (position : Nat) (target : String)
  deriving DecidableEq, Repr

def SettingFault.message : SettingFault → String
  | .emptySeparator => "separator must not be empty"
  | .blankLocale => "locale must not be empty"
  | .emptyIdKey => "id_key must not be empty when set"
  | .emptyTarget => "field rule target_key must not be empty"
  | .emptyDependency position target => s!"dependency {position} of '{target}' is empty"

/-- What can be wrong with a path pattern. -/
inductive PatternFault where
  | emptyPattern
  | emptySeparator
  deriving DecidableEq, Repr

def PatternFault.message : PatternFault → String
  | .emptyPattern => "pattern must not be empty"
  | .emptySeparator => "separator must not be empty"

/-- The two kinds of named function. -/
inductive Role where
  | validator | operator
  deriving DecidableEq, Repr

/-- A failure that ends a call. -/
inductive Error where
  /-- The data is neither an object nor a list of objects. -/
  | invalidShape (found : Json.Kind)
  | invalidPattern (pattern : String) (fault : PatternFault)
  /-- A container has both index and name children. -/
  | ambiguousContainer (path : String)
  /-- A path holds a value and a container. -/
  | pathConflict (path : String)
  /-- An index is too large for an array that is rebuilt. -/
  | indexOutOfRange (path index : String)
  /-- A rule names a function that is not registered. -/
  | unknownFunction (role : Role) (name target : String)
  /-- An operator could not produce a value. -/
  | operatorFailed (operator target cause : String)
  | setting (fault : SettingFault)
  deriving DecidableEq, Repr

namespace Error

def message : Error → String
  | .invalidShape found =>
    "Invalid data shape: expected an object or an array of objects, found " ++ found.name
  | .invalidPattern pattern fault => s!"Invalid pattern '{pattern}': " ++ fault.message
  | .ambiguousContainer path =>
    s!"Ambiguous container at '{path}': children mix array indices and object keys"
  | .pathConflict path =>
    s!"Path conflict at '{path}': a value and a nested container share this path"
  | .indexOutOfRange path index => s!"Index out of range at '{path}': {index}"
  | .unknownFunction .validator name target =>
    s!"Validator '{name}' is not registered (referenced by '{target}')"
  | .unknownFunction .operator name target =>
    s!"Operator '{name}' is not registered (referenced by '{target}')"
  | .operatorFailed operator target cause => s!"Operator '{operator}' failed at '{target}': {cause}"
  | .setting fault => "Configuration error: " ++ fault.message

/-- The name of the failure's class. -/
def className : Error → String
  | .invalidShape _ => "InvalidShape"
  | .invalidPattern .. => "InvalidPattern"
  | .ambiguousContainer _ => "AmbiguousContainer"
  | .pathConflict _ => "PathConflict"
  | .indexOutOfRange .. => "IndexOutOfRange"
  | .unknownFunction .validator .. => "UnknownValidator"
  | .unknownFunction .operator .. => "UnknownOperator"
  | .operatorFailed .. => "Operator"
  | .setting _ => "Configuration"

/-- The failure lies in the shape of what was given. -/
def isStructural : Error → Bool
  | .invalidShape _ | .invalidPattern .. | .ambiguousContainer _ | .pathConflict _
  | .indexOutOfRange .. => true
  | _ => false

/-- The failure is a name without a function. -/
def isRegistry : Error → Bool
  | .unknownFunction .. => true
  | _ => false

end Error

end FieldRules
