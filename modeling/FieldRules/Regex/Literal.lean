/-!
Texts as expressions that match nothing but these texts.
-/

namespace FieldRules.Regex

/-- Characters that mean something by themselves somewhere in an expression. -/
def isMeta (c : Char) : Bool := "\\.+*?()|[]\x7b\x7d^$#&-~".toList.contains c

/-- A character as it stands for itself: behind a backslash if it means something otherwise. -/
def escapeChar (c : Char) : List Char := if isMeta c then ['\\', c] else [c]

/-- A text as it stands for itself. -/
def escape (s : List Char) : List Char := s.flatMap escapeChar

end FieldRules.Regex
