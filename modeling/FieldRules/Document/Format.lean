import FieldRules.Disk.Path
import FieldRules.Text.Case

/-!
The formats of documents.
-/

namespace FieldRules.Document

/-- A format. -/
inductive Format where
  | yaml | json
  deriving DecidableEq, Repr

namespace Format

def name : Format → String
  | .yaml => "yaml"
  | .json => "json"

/-- The format of a file by its extension, in any case. -/
def ofPath? (path : String) : Option Format :=
  match (Disk.Path.extension? path).map Text.toLower with
  | some "yaml" | some "yml" => some .yaml
  | some "json" => some .json
  | _ => none

/-- The extension that files of a format are given. -/
def primaryExtension : Format → String := name

end Format

end FieldRules.Document
