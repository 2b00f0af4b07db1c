import FieldRules.Json.Basic
import FieldRules.Decimal.Numeral

/-!
The tokens of JSON text.
-/

namespace FieldRules.Json

namespace Number

/-- Takes digits into a significand for as long as it fits 64 bits. -/
def absorb (significand : Nat) : List Char → Nat × List Char
  | [] => (significand, [])
  | c :: rest =>
    if c.isDigit ∧ significand * 10 + Numeral.digitValue c < 0x10000000000000000 then
      absorb (significand * 10 + Numeral.digitValue c) rest
    else (significand, c :: rest)

/-- The binary64 number nearest to a power of ten up to 10³⁰⁸. -/
def powerOfTen (exponent : Nat) : Double := .ofDecimal false 1 exponent

/-- Divides by a power of ten, in strides of 10³⁰⁸ while the number is not yet zero. -/
def divideByPower (x : Double) (exponent : Nat) : Double :=
  if exponent ≤ 308 then x.div (powerOfTen exponent)
  else if x.isZero then x
  else divideByPower (x.div (powerOfTen 308)) (exponent - 308)
termination_by exponent

/-- A real number from a rounded significand and a power of ten, by one rounded product or rounded
quotients; nothing when it is beyond the finite numbers. -/
def scaled? (negative : Bool) (significand : Nat) (exponent : Int) : Option Number :=
  let x := Double.ofInt significand
  let scaled :=
    if exponent < 0 then divideByPower x exponent.natAbs
    else if exponent ≤ 308 then x.mul (powerOfTen exponent.natAbs)
    else if x.isZero then x
    else .infinite false
  match scaled with
  | .finite y => some (.real (if negative then y.neg else y))
  | _ => none

def startsWithDigit : List Char → Bool
  | c :: _ => c.isDigit
  | [] => false

/-- The exponent part behind its letter. -/
def exponentPart? (negative : Bool) (significand : Nat) (exponent : Int) (s : List Char) :
    Option (Number × List Char) :=
  let (down, s) :=
    match s with
    | '+' :: rest => (false, rest)
    | '-' :: rest => (true, rest)
    | _ => (false, s)
  let digits := s.takeWhile Char.isDigit
  let rest := s.dropWhile Char.isDigit
  let e := Numeral.ofDigits 10 digits
  if digits.isEmpty then none
  else if e < 0x80000000 then
    (scaled? negative significand (if down then exponent - e else exponent + e)).map (·, rest)
  else if significand ≠ 0 ∧ !down then none
  else some (.real (.zero negative), rest)

/-- What may follow the digits: an exponent part or nothing. -/
def afterDigits? (negative : Bool) (significand : Nat) (exponent : Int) (s : List Char) :
    Option (Number × List Char) :=
  match s with
  | 'e' :: rest | 'E' :: rest => exponentPart? negative significand exponent rest
  | _ => (scaled? negative significand exponent).map (·, s)

/-- The fraction behind its point: at least one digit. Digits that no longer fit the significand
are passed over. -/
def fractionPart? (negative : Bool) (significand : Nat) (exponent : Int) (s : List Char) :
    Option (Number × List Char) :=
  let (grown, rest) := absorb significand s
  let taken := s.length - rest.length
  if taken = 0 && !startsWithDigit s then none
  else afterDigits? negative grown (exponent - taken) (rest.dropWhile Char.isDigit)

/-- A number without its sign. Whole numbers that fit stay whole, a negative zero and everything
with a point or an exponent is real. -/
def unsigned? (negative : Bool) (s : List Char) : Option (Number × List Char) :=
  match s with
  | '0' :: c :: _ => if c.isDigit then none else go s
  | _ => go s
where
  go (s : List Char) : Option (Number × List Char) :=
    let (significand, rest) := absorb 0 s
    if !startsWithDigit s then none
    else if startsWithDigit rest then
      let skipped := (rest.takeWhile Char.isDigit).length
      match rest.dropWhile Char.isDigit with
      | '.' :: tail => fractionPart? negative significand skipped tail
      | tail => afterDigits? negative significand skipped tail
    else
      match rest with
      | '.' :: tail => fractionPart? negative significand 0 tail
      | 'e' :: tail | 'E' :: tail => exponentPart? negative significand 0 tail
      | _ =>
        if negative && (significand == 0 || 0x8000000000000000 < significand) then
          (scaled? true significand 0).map (·, rest)
        else
          (ofInt? (if negative then -(significand : Int) else significand)).map (·, rest)

/-- Reads a number from the front of a text. -/
def read? (s : List Char) : Option (Number × List Char) :=
  match s with
  | '-' :: rest => unsigned? true rest
  | _ => unsigned? false s

end Number

/-- A token: a mark of punctuation or a scalar. -/
inductive Token where
  | openArray | closeArray | openObject | closeObject | comma | colon
  | scalar (value : Json)
  deriving Inhabited

namespace Token

/-- The number that four hexadecimal digits spell. -/
def hexQuad? (a b c d : Char) : Option Nat := Numeral.natural? 16 [a, b, c, d]

/-- The character of a pair of surrogates. -/
def ofSurrogates (lead trail : Nat) : Char :=
  Char.ofNat (0x10000 + (lead - 0xD800) * 0x400 + (trail - 0xDC00))

/-- The rest of a quoted text behind its opening quote, read up to the closing one. A surrogate
stands for a character only in a pair. -/
def stringBody? (s : List Char) : Option (List Char × List Char) :=
  match s with
  | [] => none
  | '"' :: rest => some ([], rest)
  | '\\' :: 'u' :: a :: b :: c :: d :: '\\' :: 'u' :: e :: f :: g :: h :: rest => do
    let first ← hexQuad? a b c d
    if 0xD800 ≤ first ∧ first < 0xDC00 then
      let second ← hexQuad? e f g h
      if 0xDC00 ≤ second ∧ second < 0xE000 then
        let (body, rest) ← stringBody? rest
        some (ofSurrogates first second :: body, rest)
      else none
    else if 0xDC00 ≤ first ∧ first < 0xE000 then none
    else
      let (body, rest) ← stringBody? ('\\' :: 'u' :: e :: f :: g :: h :: rest)
      some (Char.ofNat first :: body, rest)
  | '\\' :: 'u' :: a :: b :: c :: d :: rest => do
    let code ← hexQuad? a b c d
    if 0xD800 ≤ code ∧ code < 0xE000 then none
    else
      let (body, rest) ← stringBody? rest
      some (Char.ofNat code :: body, rest)
  | '\\' :: c :: rest => do
    let meant ←
      if c = '"' ∨ c = '\\' ∨ c = '/' then some c
      else if c = 'b' then some '\x08'
      else if c = 'f' then some '\x0c'
      else if c = 'n' then some '\n'
      else if c = 'r' then some '\r'
      else if c = 't' then some '\t'
      else none
    let (body, rest) ← stringBody? rest
    some (meant :: body, rest)
  | c :: rest =>
    if c.toNat < 32 then none
    else (stringBody? rest).map fun (body, rest) => (c :: body, rest)

/-- A literal word: the rest behind it. -/
def afterWord? (word s : List Char) : Option (List Char) :=
  if word.isPrefixOf s then some (s.drop word.length) else none

/-- Reads one token from a text that does not start with a blank. -/
def next? (s : List Char) : Option (Token × List Char) :=
  match s with
  | '[' :: rest => some (.openArray, rest)
  | ']' :: rest => some (.closeArray, rest)
  | '\x7b' :: rest => some (.openObject, rest)
  | '\x7d' :: rest => some (.closeObject, rest)
  | ',' :: rest => some (.comma, rest)
  | ':' :: rest => some (.colon, rest)
  | '"' :: rest =>
    (stringBody? rest).map fun (body, rest) => (.scalar (.string (.ofList body)), rest)
  | 'n' :: rest => (afterWord? "ull".toList rest).map (.scalar .null, ·)
  | 't' :: rest => (afterWord? "rue".toList rest).map (.scalar (.bool true), ·)
  | 'f' :: rest => (afterWord? "alse".toList rest).map (.scalar (.bool false), ·)
  | _ => (Number.read? s).map fun (n, rest) => (.scalar (.number n), rest)

/-- The blanks between tokens. -/
def isGap (c : Char) : Bool := c == ' ' || c == '\n' || c == '\t' || c == '\r'

/-- Reads all tokens of a text. -/
def scan? (s : List Char) : Option (List Token) :=
  let start := s.dropWhile isGap
  if start.isEmpty then some []
  else
    match next? start with
    | none => none
    | some (token, rest) =>
      if rest.length < s.length then (scan? rest).map (token :: ·) else none
termination_by s.length

end Token

end FieldRules.Json
