import FieldRules.Json.Decode
import FieldRules.Schema.Basic

/-!
The canonical form of schemas as JSON. Empty parts of rules are not written.
-/

namespace FieldRules

/-- A member, unless its list is empty. -/
def Json.listMember (name : String) (items : List Json) : List (String × Json) :=
  if items.isEmpty then [] else [(name, .array items)]

/-- A member, unless its map is empty. -/
def Json.mapMember (name : String) (map : OrderedMap Json) : List (String × Json) :=
  if map.isEmpty then [] else [(name, .ofMap map)]

/-- A member, if there is a text. -/
def Json.textMember (name : String) (text : Option String) : List (String × Json) :=
  match text with
  | some s => [(name, .string s)]
  | none => []

def Localized.toJson (localized : Localized) : OrderedMap Json := localized.mapValues .string

def ValidatorSpec.toJson (spec : ValidatorSpec) : Json :=
  .object ([("name", .string spec.name)]
    ++ Json.mapMember "attributes" spec.attributes
    ++ Json.textMember "error" spec.error
    ++ Json.mapMember "l10n" (Localized.toJson spec.localized))

def OperatorSpec.toJson (spec : OperatorSpec) : Json :=
  .object ([("name", .string spec.name)] ++ Json.mapMember "attributes" spec.attributes)

def FieldRule.toJson (rule : FieldRule) : Json :=
  .object ([("target_key", .string rule.target), ("required", .bool rule.required)]
    ++ Json.listMember "depends_on" (rule.dependencies.map .string)
    ++ Json.listMember "validators" (rule.validators.map ValidatorSpec.toJson)
    ++ Json.listMember "operators" (rule.operators.map OperatorSpec.toJson)
    ++ Json.mapMember "l10n" (Localized.toJson rule.localized)
    ++ Json.textMember "name" rule.name
    ++ Json.textMember "display_name" rule.displayName
    ++ Json.textMember "description" rule.description
    ++ Json.textMember "additional_information" rule.additionalInformation)

def Schema.toJson (schema : Schema) : Json :=
  .object [
    ("version", .string schema.version),
    ("fields", .array (schema.rules.map FieldRule.toJson))]

open Json.Decode

def Localized.ofJson : Json.Decoder Localized := table text

def Attributes.ofJson : Json.Decoder Attributes := table any

def ValidatorSpec.ofJson : Json.Decoder ValidatorSpec :=
  record "ValidatorSpec" [
    .required "name" text fun s spec => { spec with name := s },
    .given "attributes" Attributes.ofJson fun m spec => { spec with attributes := m },
    .given "error" (optional text) fun s spec => { spec with error := s },
    .given "l10n" Localized.ofJson fun m spec => { spec with localized := m }] { name := "" }

def OperatorSpec.ofJson : Json.Decoder OperatorSpec :=
  record "OperatorSpec" [
    .required "name" text fun s spec => { spec with name := s },
    .given "attributes" Attributes.ofJson fun m spec => { spec with attributes := m }]
    { name := "" }

def FieldRule.ofJson : Json.Decoder FieldRule :=
  record "FieldRule" [
    .required "target_key" text fun s rule => { rule with target := s },
    .given "required" flag fun b rule => { rule with required := b },
    .given "depends_on" (list text) fun l rule => { rule with dependencies := l },
    .given "validators" (list ValidatorSpec.ofJson) fun l rule => { rule with validators := l },
    .given "operators" (list OperatorSpec.ofJson) fun l rule => { rule with operators := l },
    .given "l10n" Localized.ofJson fun m rule => { rule with localized := m },
    .given "name" (optional text) fun s rule => { rule with name := s },
    .given "display_name" (optional text) fun s rule => { rule with displayName := s },
    .given "description" (optional text) fun s rule => { rule with description := s },
    .given "additional_information" (optional text) fun s rule =>
      { rule with additionalInformation := s }] { target := "" }

def Schema.ofJson : Json.Decoder Schema :=
  record "SchemaDocument" [
    .given "version" text fun s schema => { schema with version := s },
    .given "fields" (list FieldRule.ofJson) fun l schema => { schema with rules := l }] {}

end FieldRules
