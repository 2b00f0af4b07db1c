import FieldRules.Web.DomainName
import FieldRules.Web.Percent

/-!
Hosts of web addresses: domain names, and addresses of the fourth and the sixth version.
-/

namespace FieldRules.Web

/-- What keeps a text from being a web address. -/
inductive UrlFault where
  | emptyHost
  | domainName
  | port
  | version4Address
  | version6Address
  | hostCharacter
  | relative
  deriving DecidableEq, Repr

def UrlFault.message : UrlFault → String
  | .emptyHost => "empty host"
  | .domainName => "invalid international domain name"
  | .port => "invalid port number"
  | .version4Address => "invalid IPv4 address"
  | .version6Address => "invalid IPv6 address"
  | .hostCharacter => "invalid domain character"
  | .relative => "relative URL without a base"

namespace Host

def splitAtDots (s : List Char) : List (List Char) := s.splitOn '.'

/-- A number of an address: decimal, octal behind `0`, or hexadecimal behind `0x`. -/
def addressNumber? (s : List Char) : Option Nat :=
  let number? (base : Nat) (digits : List Char) : Option Nat :=
    digits.foldlM (fun n c => do
      let d ← Percent.hexValue? c
      if d < base then some (n * base + d) else none) 0
  match s with
  | [] => none
  | '0' :: 'x' :: digits | '0' :: 'X' :: digits => number? 16 digits
  | '0' :: d :: digits => number? 8 (d :: digits)
  | _ => number? 10 s

/-- The last part of a name that is not empty behind a final dot. -/
def lastPart (s : List Char) : List Char :=
  match (splitAtDots s).reverse with
  | [] :: last :: _ => last
  | last :: _ => last
  | [] => []

/-- Names that end in a number are addresses. -/
def endsInNumber (s : List Char) : Bool :=
  let last := lastPart s
  (!last.isEmpty && last.all (fun c => '0' ≤ c ∧ c ≤ '9')) || (addressNumber? last).isSome

/-- The number of a version 4 address. The last part fills all bytes that the parts before leave. -/
def version4? (s : List Char) : Option Nat := do
  let parts := match (splitAtDots s).reverse with
    | [] :: others => others
    | all => all
  let numbers ← parts.mapM addressNumber?
  match numbers with
  | [] => none
  | last :: before =>
    if 3 < before.length ∨ 1 <<< (8 * (4 - before.length)) ≤ last ∨ before.any (255 < ·) then none
    else
      let high := before.reverse.foldl (· * 256 + ·) 0
      some (high * 1 <<< (8 * (4 - before.length)) + last)

/-- Four bytes between dots. -/
def version4Text (n : Nat) : List Char :=
  ['.'].intercalate ([n >>> 24, n >>> 16 % 256, n >>> 8 % 256, n % 256].map fun b =>
    (toString b).toList)

/-- A byte of a version 4 address inside one of version 6: decimal, without leading zeros. -/
def strictByte? (s : List Char) : Option Nat :=
  if s.isEmpty ∨ !s.all (fun c => '0' ≤ c ∧ c ≤ '9') ∨ (1 < s.length ∧ s.head? = some '0') then none
  else
    let n := s.foldl (fun n c => n * 10 + (c.toNat - 48)) 0
    if n ≤ 255 then some n else none

/-- The pieces of groups between colons. Where `ends` holds, the last group may be a version 4
address in two pieces. -/
def pieces? (ends : Bool) : List (List Char) → Option (List Nat)
  | [] => some []
  | group :: rest =>
    if ends && rest.isEmpty && group.contains '.' then do
      match ← (splitAtDots group).mapM strictByte? with
      | [a, b, c, d] => some [a * 256 + b, c * 256 + d]
      | _ => none
    else if group.isEmpty ∨ 4 < group.length then none
    else do
      let n ← group.foldlM (fun n c => (Percent.hexValue? c).map (n * 16 + ·)) 0
      return n :: (← pieces? ends rest)

/-- The text before and behind the first pair of colons. -/
def splitAtPair? : List Char → Option (List Char × List Char)
  | ':' :: ':' :: rest => some ([], rest)
  | c :: rest => (splitAtPair? rest).map fun (before, behind) => (c :: before, behind)
  | [] => none

/-- Groups between colons; an empty text has none. -/
def groups (s : List Char) : List (List Char) := if s.isEmpty then [] else s.splitOn ':'

/-- The eight pieces of a version 6 address. A pair of colons stands for one or more zeros. -/
def version6? (s : List Char) : Option (List Nat) :=
  match splitAtPair? s with
  | none => do
    let pieces ← pieces? true (groups s)
    if pieces.length = 8 then some pieces else none
  | some (before, behind) => do
    let high ← pieces? false (groups before)
    let low ← pieces? true (groups behind)
    if high.length + low.length ≤ 7 then
      some (high ++ List.replicate (8 - (high.length + low.length)) 0 ++ low)
    else none

/-- The place and the length of the first longest run of zeros. -/
def longestZeros (pieces : List Nat) : Nat × Nat :=
  (List.range pieces.length).foldl (fun best i =>
    let length := ((pieces.drop i).takeWhile (· == 0)).length
    if best.2 < length then (i, length) else best) (0, 0)

/-- A version 6 address in brackets; a pair of colons stands for the longest run of zeros. -/
def version6Text (pieces : List Nat) : List Char :=
  let written (pieces : List Nat) : List Char :=
    [':'].intercalate (pieces.map (Nat.toDigits 16 ·))
  let (start, length) := longestZeros pieces
  let body :=
    if 2 ≤ length then
      written (pieces.take start) ++ [':', ':'] ++ written (pieces.drop (start + length))
    else written pieces
  ['['] ++ body ++ [']']

/-- Reads what stands between brackets, behind an opening one. -/
def bracketed (s : List Char) : Except UrlFault (List Char) :=
  match s.getLast? with
  | some ']' =>
    match version6? s.dropLast with
    | some pieces => .ok (version6Text pieces)
    | none => .error .version6Address
  | _ => .error .version6Address

/-- The text of a host that is a domain name or an address. -/
def ofDomain (s : List Char) : Except UrlFault (List Char) :=
  match s with
  | '[' :: rest => bracketed rest
  | _ =>
    match (Text.Utf8.decode? (Percent.decode s)).bind DomainName.toAscii? with
    | none => .error .domainName
    | some [] => .error .emptyHost
    | some name =>
      if endsInNumber name then
        match version4? name with
        | some n => .ok (version4Text n)
        | none => .error .version4Address
      else .ok name

/-- Characters that may not stand in the host of an address whose scheme is not special. -/
def isForbidden (c : Char) : Bool :=
  "\x00\t\n\r #/:<>?@[\\]^|".toList.contains c

/-- The text of a host under a scheme that says nothing about its form. -/
def ofOpaque (s : List Char) : Except UrlFault (List Char) :=
  match s with
  | '[' :: rest => bracketed rest
  | _ =>
    if s.any isForbidden then .error .hostCharacter
    else .ok (Percent.encodeControls s)

end Host

end FieldRules.Web
