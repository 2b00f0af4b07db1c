import FieldRules.Decimal.Numeral
import FieldRules.Json.Print
import FieldRules.Text.Blank
import FieldRules.Text.Case

/-!
The dialects in which schemas are written, and their tags.
-/

namespace FieldRules

/-- A dialect. -/
inductive Dialect where
  /-- Rules keyed by their pattern, functions keyed by name. -/
  | v0
  /-- A list of rules, functions keyed by name. -/
  | v1
  /-- A list of rules, each with lists of functions. -/
  | v2
  /-- A list of rules with the names of functions and one table of their arguments. -/
  | legacy
  deriving DecidableEq, Repr

/-- What can be wrong with a tag. -/
inductive TagFault where
  | missing
  /-- The tag is neither a text nor a number. -/
  | form
  | unsupported (tag : String)
  deriving DecidableEq, Repr

namespace TagFault

def message : TagFault → String
  | .missing => "schema has no version tag"
  | .form => "version tag must be a string or a number"
  | .unsupported tag => s!"unsupported schema version '{tag}'"

/-- The name of the fault's class. -/
def className : TagFault → String
  | .missing => "Missing"
  | .form => "InvalidType"
  | .unsupported _ => "Unsupported"

/-- The tag that is at fault; empty where there is none. -/
def tag : TagFault → String
  | .unsupported tag => tag
  | _ => ""

end TagFault

namespace Dialect

def name : Dialect → String
  | .v0 => "v0"
  | .v1 => "v1"
  | .v2 => "v2"
  | .legacy => "legacy"

/-- The member of a document that holds the tag. -/
def tagKey : String := "version"

/-- Reads a tag: `legacy` in any case, or a number with an optional `v` before it. Only what stands
before the first dot counts. -/
def parse (tag : String) : Except TagFault Dialect :=
  let trimmed := Text.trim tag
  if trimmed.toLower = "legacy" then .ok .legacy
  else
    let number := match trimmed.toList with
      | 'v' :: rest | 'V' :: rest => rest
      | s => s
    match Numeral.unsigned? 10 (number.takeWhile (· != '.')) with
    | some 0 => .ok .v0
    | some 1 => .ok .v1
    | some 2 => .ok .v2
    | _ => .error (.unsupported tag)

/-- The dialect that a document's tag names. -/
def detect (raw : Json) : Except TagFault Dialect :=
  match raw.member? tagKey with
  | none | some .null => .error .missing
  | some (.string tag) => parse tag
  | some (.number n) => parse n.text
  | some _ => .error .form

end Dialect

end FieldRules
