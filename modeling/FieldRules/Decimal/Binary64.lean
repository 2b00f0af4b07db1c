/-!
Binary64 numbers in exact arithmetic: the finite numbers, correct rounding of a quotient to them,
and the arithmetic that also knows the infinities and NaN.
-/

namespace FieldRules

/-- A finite binary64 number: its sign and its remaining 63 bits as a number, which orders the
magnitudes. -/
structure Binary64 where
  negative : Bool
  /-- Exponent field and fraction field, read as one number. -/
  magnitude : Nat
  /-- The magnitude is below that of the infinities. -/
  magnitude_lt : magnitude < 0x7ff0000000000000
  deriving DecidableEq, Repr

namespace Binary64

def zero (negative : Bool) : Binary64 := ⟨negative, 0, by decide⟩

instance : Inhabited Binary64 := ⟨zero false⟩

/-- The hidden bit of a significand: 2⁵². -/
abbrev hiddenBit : Nat := 0x10000000000000

/-- The fraction with its hidden bit, which only numbers of exponent field zero lack. -/
def significand (x : Binary64) : Nat :=
  if x.magnitude < hiddenBit then x.magnitude else hiddenBit + x.magnitude % hiddenBit

/-- The number of doublings between the significand and the value in `units`. -/
def scale (x : Binary64) : Nat := x.magnitude / hiddenBit - 1

/-- The absolute value as a multiple of the least positive number, 2⁻¹⁰⁷⁴. -/
def units (x : Binary64) : Nat := x.significand <<< x.scale

/-- The units in one: 2¹⁰⁷⁴. -/
def unitsInOne : Nat := 1 <<< 1074

/-- The value as a signed multiple of 2⁻¹⁰⁷⁴. -/
def signedUnits (x : Binary64) : Int := if x.negative then -(x.units : Int) else x.units

def neg (x : Binary64) : Binary64 := { x with negative := !x.negative }

def isZero (x : Binary64) : Bool := x.magnitude == 0

/-- The quotient rounded to the nearest whole number, a half to the even one. -/
def roundQuotient (num den : Nat) : Nat :=
  let quotient := num / den
  let twice := 2 * (num % den)
  if twice < den then quotient
  else if den < twice then quotient + 1
  else quotient + quotient % 2

/-- The number nearest to `num / den`, a half going to the even significand; nothing when that is
beyond the finite numbers. Below the first doubling the significand is the magnitude; each doubling
adds 2⁵² to it, and a significand rounded up to 2⁵³ carries into the exponent by itself. -/
def nearest? (negative : Bool) (num den : Nat) : Option Binary64 :=
  let num := num * unitsInOne
  let doublings := Nat.log2 (num / den) - 52
  let magnitude := doublings * hiddenBit + roundQuotient num (den <<< doublings)
  if h : magnitude < 0x7ff0000000000000 then some ⟨negative, magnitude, h⟩ else none

/-- The number nearest to `digits · 10 ^ exponent`. Exponents that leave the range at once are not
expanded. -/
def ofDecimal? (negative : Bool) (digits : Nat) (exponent : Int) : Option Binary64 :=
  if digits = 0 then some (zero negative)
  else if 400 < exponent then none
  else if (Nat.log2 digits : Int) + 1 + 3 * exponent < -1200 then some (zero negative)
  else if 0 ≤ exponent then nearest? negative (digits * Nat.pow 10 exponent.toNat) 1
  else nearest? negative digits (Nat.pow 10 (-exponent).toNat)

/-- The value is a whole number. -/
def isWhole (x : Binary64) : Bool := x.units % unitsInOne == 0

/-- The value without its fraction. -/
def truncate (x : Binary64) : Int :=
  let whole : Nat := x.units / unitsInOne
  if x.negative then -(whole : Int) else whole

/-- Equality of values: the two zeros are equal. -/
def sameValue (x y : Binary64) : Bool :=
  x.magnitude == y.magnitude && (x.negative == y.negative || x.magnitude == 0)

end Binary64

/-- A binary64 result: a finite number, an infinity or NaN. -/
inductive Double where
  | finite (x : Binary64)
  | infinite (negative : Bool)
  | nan
  deriving DecidableEq, Repr, Inhabited

namespace Double

/-- Rounds `num / den` to the nearest number; what is beyond the finite ones is infinite. -/
def ofQuotient (negative : Bool) (num den : Nat) : Double :=
  match Binary64.nearest? negative num den with
  | some x => .finite x
  | none => .infinite negative

def ofInt (i : Int) : Double := ofQuotient (decide (i < 0)) i.natAbs 1

def ofDecimal (negative : Bool) (digits : Nat) (exponent : Int) : Double :=
  match Binary64.ofDecimal? negative digits exponent with
  | some x => .finite x
  | none => .infinite negative

def isNegative : Double → Bool
  | .finite x => x.negative
  | .infinite negative => negative
  | .nan => false

def isZero : Double → Bool
  | .finite x => x.isZero
  | _ => false

def neg : Double → Double
  | .finite x => .finite x.neg
  | .infinite negative => .infinite !negative
  | .nan => .nan

/-- An exact sum of nothing is positive unless both numbers are negative. -/
def add : Double → Double → Double
  | .nan, _ => .nan
  | _, .nan => .nan
  | .infinite a, .infinite b => if a = b then .infinite a else .nan
  | .infinite a, .finite _ => .infinite a
  | .finite _, .infinite b => .infinite b
  | .finite x, .finite y =>
    let sum := x.signedUnits + y.signedUnits
    if sum = 0 then .finite (.zero (x.negative && y.negative))
    else ofQuotient (decide (sum < 0)) sum.natAbs Binary64.unitsInOne

def sub (a b : Double) : Double := add a b.neg

def mul (a b : Double) : Double :=
  let negative := a.isNegative != b.isNegative
  match a, b with
  | .nan, _ => .nan
  | _, .nan => .nan
  | .finite x, .finite y => ofQuotient negative (x.units * y.units)
      (Binary64.unitsInOne * Binary64.unitsInOne)
  | _, _ => if a.isZero || b.isZero then .nan else .infinite negative

def div (a b : Double) : Double :=
  let negative := a.isNegative != b.isNegative
  match a, b with
  | .nan, _ => .nan
  | _, .nan => .nan
  | .infinite _, .infinite _ => .nan
  | .infinite _, .finite _ => .infinite negative
  | .finite _, .infinite _ => .finite (.zero negative)
  | .finite x, .finite y =>
    if y.isZero then (if x.isZero then .nan else .infinite negative)
    else ofQuotient negative x.units y.units

/-- Strictly less; NaN is not comparable. -/
def lt : Double → Double → Bool
  | .nan, _ => false
  | _, .nan => false
  | .infinite a, .infinite b => a && !b
  | .infinite a, .finite _ => a
  | .finite _, .infinite b => !b
  | .finite x, .finite y => decide (x.signedUnits < y.signedUnits)

end Double

end FieldRules
