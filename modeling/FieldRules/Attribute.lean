import FieldRules.Decimal.Numeral
import FieldRules.Registry
import FieldRules.Text.Blank

/-!
Reading of values and attributes by functions.
-/

namespace FieldRules

/-- The text of a value. -/
def Json.expectText : Json → Except Complaint String
  | .string s => .ok s
  | v => .error (.expected "string" v)

/-- The nearest binary64 number of a value. -/
def Json.expectNumber : Json → Except Complaint Double
  | .number n => .ok n.toDouble
  | v => .error (.expected "number" v)

namespace Attributes

def text (attributes : Attributes) (name : String) : Except Complaint String :=
  match attributes.get? name with
  | some (.string s) => .ok s
  | _ => .error (.badAttribute name "a string")

/-- A number, also one that is written as a text. -/
def number (attributes : Attributes) (name : String) : Except Complaint Double :=
  let value? := match attributes.get? name with
    | some (.number n) => some n.toDouble
    | some (.string s) => Numeral.readDouble? (Text.trim s)
    | _ => none
  match value? with
  | some value => .ok value
  | none => .error (.badAttribute name "a number")

/-- The greatest count: 64 bits. -/
def maxCount : Nat := 0xffffffffffffffff

/-- A number without fraction that is not negative. A count that does not fit in 64 bits by one is
the greatest. -/
def count (attributes : Attributes) (name : String) : Except Complaint Nat := do
  match ← attributes.number name with
  | .finite x =>
    if x.isWhole && 0 ≤ x.truncate && x.truncate ≤ maxCount + 1 then
      return min x.truncate.toNat maxCount
    else throw (.badAttribute name "a non-negative integer")
  | _ => throw (.badAttribute name "a non-negative integer")

end Attributes

end FieldRules
