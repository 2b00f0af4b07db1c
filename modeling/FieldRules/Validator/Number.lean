import FieldRules.Attribute
import FieldRules.Json.Print
import FieldRules.Validator.Text

/-!
Validators of numbers. Bounds are part of the range.
-/

namespace FieldRules.Validator

/-- The text of a bound: positional, and without a point where it is a whole number. -/
def boundText (bound : Double) : String := Decimal.Layout.plain.writeDouble bound

def isNumber : Validator := fun v _ =>
  require (v.kind == .number) ("is not a number, found " ++ v.kind.name)

/-- A number without fraction, however it is written. -/
def isInt : Validator := fun v _ =>
  let isWhole := match v with
    | .number (.whole ..) => true
    | .number (.real x) => x.isWhole
    | _ => false
  require isWhole (v.compact ++ " is not an integer")

def maxAllowed : Validator := fun v attributes => do
  let number ← v.expectNumber
  let max ← attributes.number "max"
  require (!max.lt number) (v.compact ++ " is greater than " ++ boundText max)

def minAllowed : Validator := fun v attributes => do
  let number ← v.expectNumber
  let min ← attributes.number "min"
  require (!number.lt min) (v.compact ++ " is less than " ++ boundText min)

def inBetween : Validator := fun v attributes => do
  let number ← v.expectNumber
  let min ← attributes.number "min"
  let max ← attributes.number "max"
  require (!number.lt min && !max.lt number)
    (v.compact ++ " is not between " ++ boundText min ++ " and " ++ boundText max)

end FieldRules.Validator
