import FieldRules.Dialect.Decode
import FieldRules.Disk.Basic

/-!
What keeps a document from being loaded, and its wording.
-/

namespace FieldRules.Document

/-- Why a document cannot be loaded. -/
inductive Fault where
  | unreadable (cause : DiskFault)
  /-- The text is no YAML. -/
  | yamlText
  /-- The text is no JSON, or the value has no JSON form. -/
  | jsonText
  | unknownFormat
  | tag (fault : TagFault)
  /-- A dialect cannot make a schema of the document. -/
  | schema (dialect : Dialect) (fault : Dialect.Fault)
  deriving DecidableEq

/-- A fault of the document at a path. -/
structure LoadError where
  path : String
  fault : Fault
  deriving DecidableEq

/-- Stands for what a reader says about a text that it cannot read. -/
def detail : String := "<detail>"

namespace LoadError

def message (error : LoadError) : String :=
  let path := error.path
  match error.fault with
  | .unreadable cause => s!"Failed to read file '{path}': " ++ cause.message
  | .yamlText => s!"Failed to parse YAML file '{path}': " ++ detail
  | .jsonText => s!"Failed to parse JSON file '{path}': " ++ detail
  | .unknownFormat => s!"Unsupported file format for '{path}'. Expected .yaml, .yml, or .json"
  | .tag fault => "Invalid schema version '" ++ fault.tag ++ s!"' in '{path}': " ++ fault.message
  | .schema _ (.rule error) => s!"Invalid field rule in '{path}': " ++ error.message
  | .schema dialect (.form fault) =>
    "Failed to decode " ++ dialect.name ++ s!" schema '{path}': " ++ fault.message
  | .schema dialect .notObject =>
    "Failed to decode " ++ dialect.name ++ s!" schema '{path}': schema must be an object"

/-- The name of the fault's class. -/
def className (error : LoadError) : String :=
  match error.fault with
  | .unreadable _ => "IoError"
  | .yamlText => "YamlParseError"
  | .jsonText => "JsonParseError"
  | .unknownFormat => "UnsupportedFormat"
  | .tag _ => "VersionError"
  | .schema _ (.rule _) => "RuleError"
  | .schema .. => "DecodeError"

end LoadError

end FieldRules.Document
