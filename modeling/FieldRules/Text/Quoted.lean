import FieldRules.Text.Category
import FieldRules.Text.Property

/-!
Texts quoted for messages: what cannot be shown is written as an escape.
-/

namespace FieldRules.Text

def hexDigits (n : Nat) : List Char := Nat.toDigits 16 n

/-- A character between quotes. Characters that extend the one before them are escaped, as they
would alter the escape or the quote they follow. -/
def escapeShown (c : Char) : List Char :=
  if c = '\x00' then ['\\', '0']
  else if c = '\t' then ['\\', 't']
  else if c = '\r' then ['\\', 'r']
  else if c = '\n' then ['\\', 'n']
  else if c = '\\' then ['\\', '\\']
  else if c = '"' then ['\\', '"']
  else if isPrintable c && !Property.graphemeExtend.contains c.toNat then [c]
  else '\\' :: 'u' :: '\x7b' :: hexDigits c.toNat ++ ['\x7d']

/-- The text between double quotes. -/
def quote (s : String) : String :=
  String.ofList ('"' :: s.toList.flatMap escapeShown ++ ['"'])

end FieldRules.Text
