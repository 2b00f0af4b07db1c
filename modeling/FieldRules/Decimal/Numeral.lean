import FieldRules.Decimal.Binary64

/-!
Reading numbers from text: decimal numerals, and whole numbers in a given radix.
-/

namespace FieldRules.Numeral

/-- The value of a digit in radices up to sixteen. -/
def digitValue (c : Char) : Nat :=
  if c.isDigit then c.toNat - 48
  else if 'a' ≤ c ∧ c ≤ 'f' then c.toNat - 87
  else if 'A' ≤ c ∧ c ≤ 'F' then c.toNat - 55
  else 255

/-- The number that the digits spell. -/
def ofDigits (radix : Nat) (digits : List Char) : Nat :=
  digits.foldl (fun n c => n * radix + digitValue c) 0

/-- The number spelled by one or more digits of the radix and nothing else. -/
def natural? (radix : Nat) (digits : List Char) : Option Nat :=
  if digits.isEmpty || digits.any (fun c => radix ≤ digitValue c) then none
  else some (ofDigits radix digits)

/-- A whole number: digits, behind a plus sign or not. -/
def unsigned? (radix : Nat) (s : List Char) : Option Nat :=
  match s with
  | '+' :: rest => natural? radix rest
  | _ => natural? radix s

/-- A whole number that fits a machine word. -/
def word? (s : List Char) : Option Nat := (unsigned? 10 s).filter (· < 0x10000000000000000)

/-- A whole number with an optional sign. -/
def signed? (radix : Nat) (s : List Char) : Option Int :=
  match s with
  | '-' :: rest => (natural? radix rest).map fun n => -(n : Int)
  | _ => (unsigned? radix s).map Int.ofNat

/-- The exponent part of a numeral, from its letter to the end of the text. -/
def exponent? (s : List Char) : Option Int :=
  match s with
  | [] => some 0
  | c :: rest => if c = 'e' ∨ c = 'E' then signed? 10 rest else none

/-- An unsigned decimal numeral: digits with an optional point before, between or behind them, and
an optional exponent. -/
def decimal? (negative : Bool) (s : List Char) : Option Double :=
  let whole := s.takeWhile Char.isDigit
  let rest := s.dropWhile Char.isDigit
  let (fraction, rest) :=
    match rest with
    | '.' :: tail => (tail.takeWhile Char.isDigit, tail.dropWhile Char.isDigit)
    | _ => ([], rest)
  if whole.isEmpty && fraction.isEmpty then none
  else
    (exponent? rest).map fun e =>
      .ofDecimal negative (ofDigits 10 (whole ++ fraction)) (e - (fraction.length : Int))

/-- An unsigned numeral, or one of the names of infinity and NaN in any case. -/
def double? (negative : Bool) (s : List Char) : Option Double :=
  match decimal? negative s with
  | some x => some x
  | none =>
    let name := String.ofList (s.map Char.toLower)
    if name = "inf" ∨ name = "infinity" then some (.infinite negative)
    else if name = "nan" then some .nan
    else none

/-- Reads a binary64 number: an optional sign before a numeral or a name. -/
def readDouble? (s : String) : Option Double :=
  match s.toList with
  | '-' :: rest => double? true rest
  | '+' :: rest => double? false rest
  | rest => double? false rest

end FieldRules.Numeral
