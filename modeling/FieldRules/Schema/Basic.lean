import FieldRules.Error
import FieldRules.Registry
import FieldRules.Text.Case

/-!
Schemas: lists of rules, each for the places that a path pattern addresses.
-/

namespace FieldRules

/-- Texts by locale. -/
abbrev Localized := OrderedMap String

/-- The use of a validator in a rule. -/
structure ValidatorSpec where
  name : String
  attributes : Attributes := {}
  /-- Stands for the function's own message. -/
  error : Option String := none
  /-- Messages by locale, which go before all others. -/
  localized : Localized := {}
  deriving DecidableEq, Inhabited

/-- The use of an operator in a rule. -/
structure OperatorSpec where
  name : String
  attributes : Attributes := {}
  deriving DecidableEq, Inhabited

/-- Gives arguments to a function, over those that it has. -/
def ValidatorSpec.withAttributes (spec : ValidatorSpec) (attributes : List (String × Json)) :
    ValidatorSpec :=
  { spec with attributes := spec.attributes.insertAll attributes }

/-- Sets the message of a locale. -/
def ValidatorSpec.withMessage (spec : ValidatorSpec) (locale message : String) : ValidatorSpec :=
  { spec with localized := spec.localized.insert locale message }

/-- Gives arguments to a function, over those that it has. -/
def OperatorSpec.withAttributes (spec : OperatorSpec) (attributes : List (String × Json)) :
    OperatorSpec :=
  { spec with attributes := spec.attributes.insertAll attributes }

/-- What holds for the places that a pattern addresses. -/
structure FieldRule where
  /-- The pattern of the places. -/
  target : String
  /-- There has to be such a place. -/
  required : Bool := false
  /-- Patterns that each have to address a place, or the rule does not apply. -/
  dependencies : List String := []
  validators : List ValidatorSpec := []
  operators : List OperatorSpec := []
  /-- Messages by locale for all validators of the rule. -/
  localized : Localized := {}
  name : Option String := none
  displayName : Option String := none
  description : Option String := none
  additionalInformation : Option String := none
  deriving DecidableEq, Inhabited

/-- A list of rules with the tag of the dialect in which it was written. -/
structure Schema where
  version : String := ""
  rules : List FieldRule := []
  deriving DecidableEq, Inhabited

/-- A name that only marks its rule as required: `Required`, `IsRequired`, `Exist` or `MustHave` in
any case, with hyphens and underscores anywhere. -/
def isPresenceMarker (name : String) : Bool :=
  let letters := (name.toList.filter fun c => c != '-' && c != '_').flatMap Text.lowerChar
  ["required", "isrequired", "exist", "musthave"].contains (String.ofList letters)

namespace FieldRule

/-- Adds a pattern that has to address a place. -/
def dependsOn (rule : FieldRule) (pattern : String) : FieldRule :=
  { rule with dependencies := rule.dependencies ++ [pattern] }

/-- Adds a validator behind the others. -/
def validatedBy (rule : FieldRule) (spec : ValidatorSpec) : FieldRule :=
  { rule with validators := rule.validators ++ [spec] }

/-- Adds an operator behind the others. -/
def rewrittenBy (rule : FieldRule) (spec : OperatorSpec) : FieldRule :=
  { rule with operators := rule.operators ++ [spec] }

/-- Sets the message of a locale. -/
def withMessage (rule : FieldRule) (locale message : String) : FieldRule :=
  { rule with localized := rule.localized.insert locale message }

/-- Makes the rule required if a validator of it is a presence marker, and removes the markers. -/
def absorbMarkers (rule : FieldRule) : FieldRule :=
  { rule with
    required := rule.required || rule.validators.any fun spec => isPresenceMarker spec.name
    validators := rule.validators.filter fun spec => !isPresenceMarker spec.name }

/-- The rule without markers; refused if its target or one of its dependencies is empty. -/
def build (rule : FieldRule) : Except Error FieldRule :=
  if rule.target.isEmpty then .error (.setting .emptyTarget)
  else
    match rule.dependencies.findIdx? String.isEmpty with
    | some position => .error (.setting (.emptyDependency position rule.target))
    | none => .ok rule.absorbMarkers

end FieldRule

namespace Schema

/-- The first rule for a pattern. -/
def rule? (schema : Schema) (target : String) : Option FieldRule :=
  schema.rules.find? (·.target == target)

def absorbMarkers (schema : Schema) : Schema :=
  { schema with rules := schema.rules.map FieldRule.absorbMarkers }

end Schema

end FieldRules
