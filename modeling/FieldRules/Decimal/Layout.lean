import FieldRules.Decimal.Shortest

/-!
How a number is laid out as text, in positional or in scientific notation.
-/

namespace FieldRules.Decimal

/-- The decisions of a number format. -/
structure Layout where
  /-- The least exponent of the leading digit that is written positionally; nothing means all. -/
  positionalFrom : Option Int
  /-- The exponent from which numbers are not written positionally; nothing means none. -/
  positionalBelow : Option Int
  /-- A positional number without a fraction is given the fraction `0`. -/
  pointAlways : Bool
  /-- A positive exponent carries a plus sign. -/
  plusSign : Bool

/-- JSON texts: positional from 10⁻⁵ to below 10¹⁶, `1e-7` and `1e+21` beyond. -/
def Layout.json : Layout := ⟨some (-5), some 16, true, true⟩

/-- YAML texts: as JSON texts, with no plus sign. -/
def Layout.yaml : Layout := ⟨some (-5), some 16, true, false⟩

/-- Plain texts: always positional, whole numbers without a point. -/
def Layout.plain : Layout := ⟨none, none, false, false⟩

/-- Plain texts in which every number shows a point. -/
def Layout.pointed : Layout := ⟨none, none, true, false⟩

def Layout.isPositional (layout : Layout) (leading : Int) : Bool :=
  layout.positionalFrom.all (· ≤ leading) && layout.positionalBelow.all (leading < ·)

/-- Writes digits with the point behind the first `whole` of them; `whole` may lie outside. -/
def positional (digits : List Char) (whole : Int) (pointAlways : Bool) : List Char :=
  let fraction (ds : List Char) : List Char :=
    if ds.isEmpty then (if pointAlways then ['.', '0'] else []) else '.' :: ds
  if whole ≤ 0 then '0' :: fraction (List.replicate (-whole).toNat '0' ++ digits)
  else
    let padded := digits ++ List.replicate (whole.toNat - digits.length) '0'
    padded.take whole.toNat ++ fraction (padded.drop whole.toNat)

/-- Writes digits in scientific notation. -/
def scientific (digits : List Char) (leading : Int) (plusSign : Bool) : List Char :=
  let mantissa :=
    match digits with
    | [] => []
    | [d] => [d]
    | d :: rest => d :: '.' :: rest
  let sign := if leading < 0 then ['-'] else if plusSign then ['+'] else []
  mantissa ++ 'e' :: sign ++ Nat.toDigits 10 leading.natAbs

/-- The digits up to the last one that is not zero. -/
def withoutTrailingZeros (digits : List Char) : List Char :=
  (digits.reverse.dropWhile (· == '0')).reverse

/-- The text of a number: its shortest decimal in the given layout. -/
def Layout.write (layout : Layout) (x : Binary64) : String :=
  let sign := if x.negative then ['-'] else []
  if x.isZero then String.ofList (sign ++ positional ['0'] 1 layout.pointAlways)
  else
    let d := x.shortest
    let written := Nat.toDigits 10 d.digits
    let leading := (written.length : Int) - 1 + d.exponent
    let digits := withoutTrailingZeros written
    let body :=
      if layout.isPositional leading then positional digits (leading + 1) layout.pointAlways
      else scientific digits leading layout.plusSign
    String.ofList (sign ++ body)

/-- The text of a result: `inf` and `NaN` name what is not a number. -/
def Layout.writeDouble (layout : Layout) : Double → String
  | .finite x => layout.write x
  | .infinite negative => if negative then "-inf" else "inf"
  | .nan => "NaN"

end FieldRules.Decimal
