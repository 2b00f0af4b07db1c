import FieldRules.Attribute
import FieldRules.Regex.Read
import FieldRules.Text.Property
import FieldRules.Validator.Like

/-!
Validators of texts. Lengths count characters.
-/

namespace FieldRules.Validator

/-- Accepts where the condition holds. -/
def require (condition : Bool) (complaint : Complaint) : Except Complaint Unit :=
  if condition then .ok () else .error complaint

def isString : Validator := fun v _ =>
  require (v.kind == .string) ("is not a string, found " ++ v.kind.name)

/-- A text has a character that is not white space. -/
def notEmpty : Validator := fun v _ => do
  require (!(Text.trim (← v.expectText)).isEmpty) "this string can not be empty"

/-- A text is one of those in the attribute `arr`. -/
def stringInArr : Validator := fun v attributes => do
  let text ← v.expectText
  match attributes.get? "arr" with
  | some (.array items) =>
    require (items.contains (.string text)) s!"'{text}' is not one of the allowed values"
  | _ => throw (.badAttribute "arr" "an array of strings")

def like : Validator := fun v attributes => do
  let text ← v.expectText
  let pattern ← attributes.text "pattern"
  require (Like.isMatch pattern.toList text.toList) s!"'{text}' is not LIKE '{pattern}'"

def isLocalPartChar (c : Char) : Bool := c.isAlphanum || "._%+-".toList.contains c

def isDomainChar (c : Char) : Bool := c.isAlphanum || c == '.' || c == '-'

/-- A local part, `@`, and a domain that ends in a dot and two letters or more. -/
def isEmailText (s : List Char) : Bool :=
  match s.splitOn '@' with
  | [localPart, domain] =>
    !localPart.isEmpty && localPart.all isLocalPartChar && domain.all isDomainChar &&
      match Text.splitLast? '.' domain with
      | some (name, top) => !name.isEmpty && 2 ≤ top.length && top.all Char.isAlpha
      | none => false
  | _ => false

def isEmail : Validator := fun v _ => do
  let text ← v.expectText
  require (isEmailText text.toList) s!"{text} is not a valid email address"

def maxLengthAllowed : Validator := fun v attributes => do
  let length := (← v.expectText).length
  let max ← attributes.count "max"
  require (length ≤ max) s!"length of the string is greater than {max}"

def minLengthAllowed : Validator := fun v attributes => do
  let length := (← v.expectText).length
  let min ← attributes.count "min"
  require (min ≤ length) s!"length of the string is less than {min}"

def inBetweenLengthAllowed : Validator := fun v attributes => do
  let length := (← v.expectText).length
  let min ← attributes.count "min"
  let max ← attributes.count "max"
  require (min ≤ length && length ≤ max) s!"length of the string should be between {min} and {max}"

/-- A text has a character that is not an ASCII letter or digit. -/
def hasSpecialCharacter (text : String) : Bool := text.toList.any (!·.isAlphanum)

def noSpecialCharacters : Validator := fun v _ => do
  require (!hasSpecialCharacter (← v.expectText)) "special characters are not allowed"

def haveSpecialCharacters : Validator := fun v _ => do
  require (hasSpecialCharacter (← v.expectText)) "special characters are required"

def leastOneUpperCase : Validator := fun v _ => do
  require ((← v.expectText).toList.any (Text.Property.uppercase.contains ·.toNat))
    "at least one uppercase letter is required"

def leastOneLowerCase : Validator := fun v _ => do
  require ((← v.expectText).toList.any (Text.Property.lowercase.contains ·.toNat))
    "at least one lowercase letter is required"

def leastOneDigit : Validator := fun v _ => do
  require ((← v.expectText).toList.any Char.isDigit) "at least one numeric digit is required"

def isHexDigit (c : Char) : Bool :=
  c.isDigit || ('a' ≤ c && c ≤ 'f') || ('A' ≤ c && c ≤ 'F')

/-- Groups of 8, 4, 4, 4 and 12 hexadecimal digits between hyphens. -/
def isUuidText (s : List Char) : Bool :=
  let groups := s.splitOn '-'
  groups.map List.length == [8, 4, 4, 4, 12] && groups.all (·.all isHexDigit)

def isValidUuid : Validator := fun v _ => do
  let text ← v.expectText
  require (isUuidText text.toList) s!"{text} is not a valid uuid"

/-- The words that stand for the part of a complaint that tells how an expression is malformed. -/
def malformed : String := "<detail>"

/-- A part of the text matches the attribute `regex`. -/
def regex : Validator := fun v attributes => do
  let text ← v.expectText
  let pattern ← attributes.text "regex"
  match Regex.read? pattern with
  | some expression => require (expression.isMatch text) s!"'{text}' does not match {pattern}"
  | none => throw s!"invalid regex '{pattern}': {malformed}"

end FieldRules.Validator
