import FieldRules.Decimal.Layout

/-!
JSON numbers: whole numbers of 64 bits, and finite binary64 numbers for everything else.
-/

namespace FieldRules.Json

/-- A number of a JSON document. A whole number and a binary64 number of the same value differ:
`1` is not `1.0`. -/
inductive Number where
  | whole (value : Int) (inRange : -0x8000000000000000 ≤ value ∧ value < 0x10000000000000000)
  | real (value : Binary64)
  deriving DecidableEq, Repr

namespace Number

instance : Inhabited Number := ⟨.whole 0 (by decide)⟩

/-- A whole number that fits, if it does. -/
def ofInt? (i : Int) : Option Number :=
  if h : -0x8000000000000000 ≤ i ∧ i < 0x10000000000000000 then some (.whole i h) else none

/-- The nearest binary64 number. -/
def toDouble : Number → Double
  | .whole value _ => .ofInt value
  | .real value => .finite value

/-- The number's text with real numbers in the given layout. -/
def textIn (layout : Decimal.Layout) : Number → String
  | .whole value _ => toString value
  | .real value => layout.write value

def text (n : Number) : String := n.textIn .json

/-- Equality of numbers of one kind; the two real zeros are equal. -/
def sameValue : Number → Number → Bool
  | .whole a _, .whole b _ => a == b
  | .real a, .real b => a.sameValue b
  | _, _ => false

end Number

end FieldRules.Json
