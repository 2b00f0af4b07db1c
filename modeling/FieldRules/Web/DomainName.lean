import FieldRules.Text.Category
import FieldRules.Text.Case
import FieldRules.Text.Normalize
import FieldRules.Text.Search
import FieldRules.Web.Punycode

/-!
Internationalized domain names and their ASCII form.

A name is mapped character by character, so that spellings that look alike become one, and
composed. Each label outside ASCII is then written in Punycode behind `xn--`; a label that already
starts so must decode to a label that the mapping keeps.
-/

namespace FieldRules.Web.DomainName

open FieldRules.Text

/-- ASCII characters that no host name holds. -/
def isForbidden (n : Nat) : Bool :=
  n ≤ 0x20 || n == 0x7F || "%#/:<>?@[\\]^|".toList.any (·.toNat == n)

/-- Characters that the mapping drops: soft hyphens, joiners of words, variation selectors. -/
def isIgnored (n : Nat) : Bool :=
  [0xAD, 0x34F, 0x200B, 0x2060, 0x2064, 0xFEFF].contains n
    || (0x180B ≤ n && n ≤ 0x180D) || n == 0x180F
    || (0xFE00 ≤ n && n ≤ 0xFE0F) || (0x1BCA0 ≤ n && n ≤ 0x1BCA3)
    || (0xE0100 ≤ n && n ≤ 0xE01EF)

/-- Letters and joiners that stay as they are although folding would change them: the sharp s, the
final sigma, the dotless i and the two zero-width joiners. -/
def isKept (n : Nat) : Bool := [0xDF, 0x3C2, 0x131, 0x200C, 0x200D].contains n

/-- Characters that no name may hold: controls, formats, private and unassigned code points,
separators, fillers, and the marks that describe how ideographs are built. -/
def isDisallowed (n : Nat) : Bool :=
  (match Category.ofCodePoint n with
    | .cc | .cf | .cs | .co | .cn | .zl | .zp => true
    | _ => false)
  || [0x115F, 0x1160, 0x1680, 0x17B4, 0x17B5, 0x1806, 0x3164, 0xFFA0, 0xFFFC, 0xFFFD].contains n
  || (0x2FF0 ≤ n && n ≤ 0x2FFF)

/-- Cherokee letters fold to the capitals, all others to small letters. -/
def foldCherokee? (n : Nat) : Option Nat :=
  if 0x13A0 ≤ n && n ≤ 0x13F5 then some n
  else if 0x13F8 ≤ n && n ≤ 0x13FD then some (n - 8)
  else if 0xAB70 ≤ n && n ≤ 0xABBF then some (n - 0xAB70 + 0x13A0)
  else none

/-- Gives up the case of a code point. -/
def fold (n : Nat) : List Nat :=
  match foldCherokee? n with
  | some n => [n]
  | none =>
    if n = 0x131 then [n]
    else ((upperChar (Char.ofNat n)).flatMap lowerChar).map (·.toNat)

/-- Gives up presentation and case of a code point. -/
def foldParts (n : Nat) : List Nat :=
  (((Normalize.compatibilityParts n).flatMap fold).flatMap Normalize.compatibilityParts).flatMap
    fun n => (lowerChar (Char.ofNat n)).map (·.toNat)

/-- What a code point of a name is mapped to; `none` if no name may hold it. -/
def mapCodePoint? (n : Nat) : Option (List Nat) :=
  if isIgnored n then some []
  else if isKept n then some [n]
  else if n < 0x80 then
    if isForbidden n then none else some [(Char.ofNat n).toLower.toNat]
  else if isDisallowed n then none
  else
    let image := if n = 0x1E9E then [0xDF] else
      (foldParts n).map fun n => if n = 0x3002 then 0x2E else n
    if image.any isForbidden then none else some (Normalize.composed image)

/-- The mapped and composed name. -/
def mapped? (name : List Char) : Option (List Nat) :=
  (name.mapM fun c => mapCodePoint? c.toNat).map fun parts => Normalize.composed parts.flatten

/-- A zero-width joiner follows a virama; the non-joiner may also stand between letters that would
join. `before` is given in reverse. -/
def joinersFit (before : List Nat) : List Nat → Bool
  | [] => true
  | n :: rest =>
    let followsVirama := before.head?.any (combiningClass · == 9)
    let skip (s : List Nat) := (s.dropWhile (joining · == .transparent)).head?.map joining
    let betweenLetters :=
      (skip before).any (fun j => j == .both || j == .left)
        && (skip rest).any (fun j => j == .both || j == .right)
    (if n = 0x200D then followsVirama
      else if n = 0x200C then followsVirama || betweenLetters
      else true)
      && joinersFit (n :: before) rest

/-- A label does not start with a mark, and joiners stand only where they have an effect. -/
def isWellFormed (label : List Nat) : Bool :=
  (match label.head?.map Category.ofCodePoint with
    | some .mn | some .mc | some .me => false
    | _ => true)
  && joinersFit [] label

/-- Directions in a label fit together: a label written from right to left has no letter of the
other direction and one kind of digits, and each label ends in a letter or digit of its own
direction. -/
def directionsFit (label : List Nat) : Bool :=
  let directions := label.map direction
  let last? := (directions.reverse.dropWhile (· == .mark)).head?
  match directions with
  | [] => true
  | .rightToLeft :: _ =>
    directions.all (fun d => d != .leftToRight && d != .formatting)
      && last?.any (fun d => d == .rightToLeft || d == .europeanNumber || d == .arabicNumber)
      && !(directions.contains .europeanNumber && directions.contains .arabicNumber)
  | .leftToRight :: _ =>
    directions.all (fun d => d != .rightToLeft && d != .arabicNumber && d != .formatting)
      && last?.any (fun d => d == .leftToRight || d == .europeanNumber)
  | _ => false

/-- A label as it is read, and as it is written. -/
structure Label where
  codePoints : List Nat
  ascii : List Char

def isAscii (s : List Nat) : Bool := s.all (· < 128)

/-- The label that a mapped one stands for. -/
def label? (mapped : List Nat) : Option Label :=
  let chars := mapped.map Char.ofNat
  match chars with
  | 'x' :: 'n' :: '-' :: '-' :: written => do
    let decoded := (← Punycode.decode? written).map (·.toNat)
    let isMapped := decoded.all fun n => mapCodePoint? n == some [n]
    if isAscii decoded || Normalize.composed decoded != decoded || !isMapped
        || !isWellFormed decoded then none
    else some ⟨decoded, chars⟩
  | _ =>
    if isAscii mapped then some ⟨mapped, chars⟩
    else if isWellFormed mapped then
      some ⟨mapped, "xn--".toList ++ Punycode.encode chars⟩
    else none

/-- The ASCII form of a name; `none` if it is not a valid name. -/
def toAscii? (name : List Char) : Option (List Char) := do
  let mapped ← mapped? name
  let labels ← (mapped.splitOn 0x2E).mapM label?
  let isBidirectional := labels.any fun label =>
    label.codePoints.any fun n => direction n == .rightToLeft || direction n == .arabicNumber
  if isBidirectional && !labels.all fun label => directionsFit label.codePoints then none
  else some (['.'].intercalate (labels.map (·.ascii)))

end FieldRules.Web.DomainName
