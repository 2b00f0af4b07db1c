import FieldRules.Text.CaseRun
import FieldRules.Text.Property

/-!
Upper and lower case of texts, for all scripts and independent of any language.
-/

namespace FieldRules.Text

/-- The upper case of a character, which may be several characters. -/
def upperChar (c : Char) : List Char :=
  match CaseRun.upperExpansions.find? (·.1 == c.toNat) with
  | some (_, expansion) => expansion.map Char.ofNat
  | none =>
    match CaseRun.map? CaseRun.upper c.toNat with
    | some n => [Char.ofNat n]
    | none => [c]

/-- The lower case of a character by itself. Only the dotted capital I takes two characters. -/
def lowerChar (c : Char) : List Char :=
  if c = 'İ' then ['i', Char.ofNat 0x307]
  else
    match CaseRun.map? CaseRun.lower c.toNat with
    | some n => [Char.ofNat n]
    | none => [c]

def isCased (c : Char) : Bool := Property.cased.contains c.toNat

def isCaseIgnorable (c : Char) : Bool := Property.caseIgnorable.contains c.toNat

/-- The nearest character that is not case-ignorable has case. -/
def nextIsCased (s : List Char) : Bool :=
  match s.dropWhile isCaseIgnorable with
  | c :: _ => isCased c
  | [] => false

/-- Lower case of the characters that follow `before`, which are given in reverse. A capital sigma
that ends a word becomes a final sigma. -/
def lowerFrom (before : List Char) : List Char → List Char
  | [] => []
  | c :: rest =>
    let image :=
      if c = 'Σ' then (if nextIsCased before && !nextIsCased rest then ['ς'] else ['σ'])
      else lowerChar c
    image ++ lowerFrom (c :: before) rest

def upperChars (s : List Char) : List Char := s.flatMap upperChar

def lowerChars (s : List Char) : List Char := lowerFrom [] s

def toUpper (s : String) : String := String.ofList (upperChars s.toList)

def toLower (s : String) : String := String.ofList (lowerChars s.toList)

/-- The upper case of the first character before the lower case of the others. -/
def capitalize (s : String) : String :=
  match s.toList with
  | [] => ""
  | c :: rest => String.ofList (upperChar c ++ lowerChars rest)

end FieldRules.Text
