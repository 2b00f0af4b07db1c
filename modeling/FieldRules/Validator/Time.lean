import FieldRules.Attribute
import FieldRules.Calendar.Read
import FieldRules.Validator.Text

/-!
Validators of dates, which are texts in one of the forms that can be read.
-/

namespace FieldRules.Validator

open FieldRules.Calendar

/-- The instant of a value. -/
def expectInstant (v : Json) : Except Complaint Instant := do
  let text ← v.expectText
  match Calendar.read? text with
  | some instant => return instant
  | none => throw s!"invalid date provided: {text}"

/-- The instant of an attribute. -/
def instantAttribute (attributes : Attributes) (name : String) : Except Complaint Instant :=
  match attributes.get? name with
  | some (.string s) =>
    match Calendar.read? s with
    | some instant => .ok instant
    | none => .error (.badAttribute name "a date")
  | _ => .error (.badAttribute name "a date")

def isValidDate : Validator := fun v _ => do
  let _ ← expectInstant v

def isLessThanNow (now : Instant) : Validator := fun v _ => do
  let instant ← expectInstant v
  require (instant.before now) (instant.text ++ " is not in the past")

def isMoreThanNow (now : Instant) : Validator := fun v _ => do
  let instant ← expectInstant v
  require (now.before instant) (instant.text ++ " has already passed")

/-- Not after the attribute `maxTime`. -/
def isBefore : Validator := fun v attributes => do
  let instant ← expectInstant v
  let max ← instantAttribute attributes "maxTime"
  require (!max.before instant) (instant.text ++ " is after " ++ max.text)

/-- Not before the attribute `minTime`. -/
def isAfter : Validator := fun v attributes => do
  let instant ← expectInstant v
  let min ← instantAttribute attributes "minTime"
  require (!instant.before min) (instant.text ++ " is before " ++ min.text)

/-- Behind the attribute `minTime` and before the attribute `maxTime`. -/
def isInBetweenTime : Validator := fun v attributes => do
  let instant ← expectInstant v
  let min ← instantAttribute attributes "minTime"
  let max ← instantAttribute attributes "maxTime"
  require (min.before instant && instant.before max)
    (instant.text ++ " is before " ++ min.text ++ " or after " ++ max.text)

end FieldRules.Validator
