import FieldRules.Dialect.Basic
import FieldRules.Schema.Json

/-!
Schemas from documents in each dialect.

A document is first read as a whole, and then each of its rules is built. Names of functions are not
looked up here. Empty texts count as absent.
-/

namespace FieldRules.Dialect

open Json (Decoder DecodeFault)
open Json.Decode

/-- What keeps a document from being a schema. -/
inductive Fault where
  | notObject
  | form (fault : DecodeFault)
  | rule (error : Error)
  deriving DecidableEq

/-- The text, if it is not empty. -/
def nonEmpty (s : Option String) : Option String := s.filter (!·.isEmpty)

/-- A function's arguments where functions are keyed by name. -/
structure KeyedComponent where
  attributes : Attributes := {}
  error : Option String := none
  localized : Localized := {}

def KeyedComponent.ofJson : Decoder KeyedComponent :=
  record "KeyedComponent" [
    .given "attributes" Attributes.ofJson fun m c => { c with attributes := m },
    .given "error" (optional text) fun s c => { c with error := s },
    .given "l10n" Localized.ofJson fun m c => { c with localized := m }] {}

/-- Validators keyed by name, in the order of the keys. -/
def keyedValidators : Decoder (List ValidatorSpec) := fun v =>
  (table KeyedComponent.ofJson v).map fun components =>
    components.entries.map fun (name, c) =>
      { name, attributes := c.attributes, error := nonEmpty c.error, localized := c.localized }

/-- Operators keyed by name. Messages do not count. -/
def keyedOperators : Decoder (List OperatorSpec) := fun v =>
  (table KeyedComponent.ofJson v).map fun components =>
    components.entries.map fun (name, c) => { name, attributes := c.attributes }

/-- A use of a function in a list. -/
def componentOfJson : Decoder ValidatorSpec :=
  record "Component" [
    .required "name" text fun s spec => { spec with name := s },
    .given "attributes" Attributes.ofJson fun m spec => { spec with attributes := m },
    .given "error" (optional text) fun s spec => { spec with error := nonEmpty s },
    .given "l10n" Localized.ofJson fun m spec => { spec with localized := m }] { name := "" }

/-- Operators in a list. Messages do not count. -/
def listedOperators : Decoder (List OperatorSpec) := fun v =>
  (list componentOfJson v).map fun specs =>
    specs.map fun spec => { name := spec.name, attributes := spec.attributes }

/-- The text of additional information, which may be any value. -/
def informationText : Json → Option String
  | .null => none
  | .string s => some s
  | v => some v.compact

/-- The descriptive members of a rule. -/
def descriptive : List (Json.Decode.Field FieldRule) := [
  .given "name" (optional text) fun s rule => { rule with name := nonEmpty s },
  .given "display_name" (optional text) fun s rule => { rule with displayName := nonEmpty s },
  .given "description" (optional text) fun s rule => { rule with description := nonEmpty s },
  .given "additional_information" any fun v rule =>
    { rule with additionalInformation := informationText v }]

/-- Reads a rule from an object: first the members that say what holds, then those that
describe. -/
def ruleOfJson (fields : List (Json.Decode.Field FieldRule)) : Decoder FieldRule := fun v => do
  let rule ← object "Field" fields { target := "" } v
  match v with
  | .object given => members descriptive rule given
  | _ => return rule

/-- The members that the dialects with versions share but for two names. -/
def ruleFields (required : String) (target : Decoder String)
    (validators : Decoder (List ValidatorSpec)) (operators : Decoder (List OperatorSpec)) :
    List (Json.Decode.Field FieldRule) := [
  .given required flag fun b rule => { rule with required := b },
  .given "target_key" target fun s rule => { rule with target := s },
  .given "depends_on" (list text) fun l rule => { rule with dependencies := l },
  .given "validators" validators fun l rule => { rule with validators := l },
  .given "operators" operators fun l rule => { rule with operators := l },
  .given "l10n" Localized.ofJson fun m rule => { rule with localized := m }]

/-- Reads the member that holds the rules; without it there are none. -/
def rulesMember (decode : Decoder (List FieldRule)) (raw : Json) :
    Except DecodeFault (List FieldRule) :=
  match raw.member? "fields" with
  | some v => decode v
  | none => .ok []

/-- Rules keyed by their pattern, which a pattern inside the rule replaces. -/
def rulesV0 : Decoder (List FieldRule) := fun v =>
  let target : Decoder String := fun v => (optional text v).map (·.getD "")
  let decode := ruleOfJson (ruleFields "is_required" target keyedValidators keyedOperators)
  (table decode v).map fun rules =>
    rules.entries.map fun (key, rule) =>
      if rule.target.isEmpty then { rule with target := key } else rule

def rulesV1 : Decoder (List FieldRule) :=
  list (ruleOfJson (ruleFields "required" text keyedValidators keyedOperators))

def rulesV2 : Decoder (List FieldRule) :=
  list (ruleOfJson (ruleFields "required" text (list componentOfJson) listedOperators))

/-- An entry of the table of arguments in the legacy dialect. -/
structure Constant where
  attributes : Attributes := {}
  err : Option String := none

def Constant.ofJson : Decoder Constant :=
  record "Constant" [
    .given "attributes" Attributes.ofJson fun m c => { c with attributes := m },
    .given "err" (optional text) fun s c => { c with err := s }] {}

/-- A rule as the legacy dialect writes it. -/
structure LegacyRule where
  target : String := ""
  dependencies : List String := []
  description : Option String := none
  validators : List String := []
  operators : List String := []
  constants : OrderedMap Constant := {}

def LegacyRule.ofJson : Decoder LegacyRule :=
  record "Field" [
    .given "target_key" text fun s rule => { rule with target := s },
    .given "depends_on" (list text) fun l rule => { rule with dependencies := l },
    .given "description" (optional text) fun s rule => { rule with description := s },
    .given "validators" (list text) fun l rule => { rule with validators := l },
    .given "operators" (list text) fun l rule => { rule with operators := l },
    .given "constants" (table Constant.ofJson) fun m rule => { rule with constants := m }] {}

/-- The rule with each function's arguments from the table. Those of an operator stand under its
name behind an underscore. -/
def LegacyRule.toRule (rule : LegacyRule) : FieldRule where
  target := rule.target
  dependencies := rule.dependencies
  description := nonEmpty rule.description
  validators := rule.validators.map fun name =>
    match rule.constants.get? name with
    | some c => { name, attributes := c.attributes, error := nonEmpty c.err }
    | none => { name }
  operators := rule.operators.map fun name =>
    match rule.constants.get? ("_" ++ name) with
    | some c => { name, attributes := c.attributes }
    | none => { name }

def rulesLegacy : Decoder (List FieldRule) := fun v =>
  (list LegacyRule.ofJson v).map (·.map LegacyRule.toRule)

/-- How a dialect writes its rules. -/
def rules : Dialect → Decoder (List FieldRule)
  | .v0 => rulesV0
  | .v1 => rulesV1
  | .v2 => rulesV2
  | .legacy => rulesLegacy

/-- The tag that a schema keeps: the document's own, or else the name of its dialect. -/
def keptTag (dialect : Dialect) (raw : Json) : String :=
  match raw.member? tagKey with
  | some (.string tag) => tag
  | some (.number n) => n.text
  | _ => dialect.name

/-- The schema that a document in a dialect stands for. -/
def decode (dialect : Dialect) (raw : Json) : Except Fault Schema :=
  if raw.kind != .object then .error .notObject
  else
    match rulesMember dialect.rules raw with
    | .error fault => .error (.form fault)
    | .ok rules =>
      match rules.mapM FieldRule.build with
      | .error error => .error (.rule error)
      | .ok rules => .ok { version := dialect.keptTag raw, rules }

end FieldRules.Dialect
