import FieldRules.Decimal.Binary64

/-!
The shortest decimal that reads back as a given binary64 number.
-/

namespace FieldRules

/-- A decimal: digits and the power of ten they are scaled by. -/
structure Decimal where
  digits : Nat
  exponent : Int
  deriving DecidableEq, Repr, Inhabited

namespace Binary64

/-- The decimal is read as this number. -/
def readsBack (x : Binary64) (d : Decimal) : Bool :=
  Binary64.ofDecimal? x.negative d.digits d.exponent == some x

/-- The exact value, which needs no rounding to be read back. -/
def exactDecimal (x : Binary64) : Decimal := ⟨x.units * Nat.pow 5 1074, -1074⟩

/-- The exponent of ten of the leading digit: the whole part of the logarithm. A positive number is
at least 10⁻³²⁴, so the count of digits of the whole part of its 10³²⁴-fold decides it. -/
def leadingExponent (x : Binary64) : Int :=
  ((Nat.toDigits 10 (x.units * Nat.pow 10 324 / unitsInOne)).length : Int) - 325

/-- The decimal with `count` digits next to the number that reads back, if there is one. Of the two
neighbours on that grid the nearer is taken, and the even one when both are equally near. -/
def withDigits? (x : Binary64) (count : Nat) : Option Decimal :=
  let exponent := x.leadingExponent - (count : Int) + 1
  let num := if exponent ≤ 0 then x.units * Nat.pow 10 (-exponent).toNat else x.units
  let den := if exponent ≤ 0 then unitsInOne else unitsInOne * Nat.pow 10 exponent.toNat
  let below : Decimal := ⟨num / den, exponent⟩
  let above : Decimal := ⟨num / den + 1, exponent⟩
  let nearer : Decimal := ⟨roundQuotient num den, exponent⟩
  if x.readsBack nearer then some nearer
  else if x.readsBack below then some below
  else if x.readsBack above then some above
  else none

/-- The fewest digits that read back; at most seventeen are needed. -/
def shortest (x : Binary64) : Decimal :=
  if x.isZero then ⟨0, 0⟩
  else ((List.range 17).findSome? fun i => x.withDigits? (i + 1)).getD x.exactDecimal

end Binary64

end FieldRules
