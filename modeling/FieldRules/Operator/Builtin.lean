import FieldRules.Attribute
import FieldRules.Text.Case

/-!
The operators that are there from the start: rewriting of texts, and arithmetic.
-/

namespace FieldRules.Operator

/-- Rewrites texts and leaves all other values as they are. -/
def onText (rewrite : String → String) : Operator := fun v _ =>
  match v with
  | .string s => .ok (some (.string (rewrite s)))
  | _ => .ok none

/-- The upper case of the first character, and the lower case of the rest. -/
def capitalize : Operator := onText Text.capitalize

def upperCase : Operator := onText Text.toUpper

def lowerCase : Operator := onText Text.toLower

/-- Drops the white space at both ends. -/
def trim : Operator := onText Text.trim

/-- The result of a calculation: a whole number if it is one and fits in 63 bits. -/
def resultValue (result : Double) : Except Complaint Json :=
  match result with
  | .finite x =>
    let fits := x.isWhole ∧ x.truncate.natAbs < 0x8000000000000000
    let whole := if fits then Json.Number.ofInt? x.truncate else none
    .ok (.number (whole.getD (.real x)))
  | _ => .error ("result " ++ Decimal.Layout.plain.writeDouble result ++ " is not a finite number")

/-- Calculates with the value and an attribute. -/
def arithmetic (argumentName : String) (calculate : Double → Double → Double) : Operator :=
  fun v attributes => do
    let operand ← v.expectNumber
    let argument ← attributes.number argumentName
    return some (← resultValue (calculate operand argument))

def add : Operator := arithmetic "add_with" .add

def subtract : Operator := arithmetic "subtract_with" .sub

def multiply : Operator := arithmetic "multiply_with" .mul

/-- Division, which refuses zero before it looks at the value. -/
def divide : Operator := fun v attributes => do
  if (← attributes.number "divide_with").isZero then throw "division by zero"
  arithmetic "divide_with" .div v attributes

/-- The operators by name. -/
def builtin : Registry Operator := .ofList [
  ("Capitalize", capitalize),
  ("UpperCase", upperCase),
  ("LowerCase", lowerCase),
  ("Trim", trim),
  ("Add", add),
  ("Subtract", subtract),
  ("Multiply", multiply),
  ("Divide", divide)]

end FieldRules.Operator
