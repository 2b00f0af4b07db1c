import FieldRules.Document.Fault
import FieldRules.Document.Format
import FieldRules.Json.Read
import FieldRules.Yaml.Print
import FieldRules.Yaml.Value

/-!
Documents as texts in a format.
-/

namespace FieldRules.Document

/-- The value of a YAML text. Keys that no object can have are a fault of the JSON form. -/
def readYaml (text : String) : Except Fault Json :=
  match Yaml.read? text with
  | none => .error .yamlText
  | some v =>
    match v.toJson? with
    | some v => .ok v
    | none => .error .jsonText

def readJson (text : String) : Except Fault Json :=
  match Json.read? text with
  | some v => .ok v
  | none => .error .jsonText

/-- The value of a text in a format. -/
def Format.read : Format → String → Except Fault Json
  | .yaml => readYaml
  | .json => readJson

/-- The text of a value in a format. -/
def Format.write : Format → Json → String
  | .yaml => Json.toYaml
  | .json => Json.pretty

/-- The formats in which a document at a path is tried: that of its extension, JSON, and YAML. -/
def candidates (path : String) : List Format := (Format.ofPath? path).toList ++ [.json, .yaml]

/-- The value of a text whose format is not known, and the first format in which it can be read. -/
def guess (path text : String) : Except LoadError (Json × Format) :=
  let found := (candidates path).findSome? fun format =>
    match format.read text with
    | .ok v => some (v, format)
    | .error _ => none
  match found with
  | some found => .ok found
  | none => .error ⟨path, .unknownFormat⟩

end FieldRules.Document
