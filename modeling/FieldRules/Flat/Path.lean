/-!
Paths: segments joined by a separator, and the segments that denote array positions.
-/

namespace FieldRules.Path

/-- Extends a path by a segment. The empty path adds neither itself nor a separator. -/
def join (path segment separator : String) : String :=
  if path.isEmpty then segment else path ++ separator ++ segment

/-- Puts a character in front of the first of the pieces. -/
def consFirst (c : Char) : List (List Char) → List (List Char)
  | [] => [[c]]
  | piece :: rest => (c :: piece) :: rest

/-- Cuts a text at every separator, from the left, after passing over `skip` characters. -/
def cut (separator : List Char) (skip : Nat) (s : List Char) : List (List Char) :=
  match s, skip with
  | [], _ => [[]]
  | _ :: rest, skip + 1 => cut separator skip rest
  | c :: rest, 0 =>
    if separator.isPrefixOf (c :: rest) then [] :: cut separator (separator.length - 1) rest
    else consFirst c (cut separator 0 rest)

/-- The segments of a path. -/
def segments (separator path : String) : List String :=
  (cut separator.toList 0 path.toList).map String.ofList

/-- A path from its segments. -/
def ofSegments (separator : String) (parts : List String) : String :=
  separator.intercalate parts

/-- The segment denotes an array position: ASCII digits with no leading zero. -/
def isIndexChars : List Char → Bool
  | [] => false
  | ['0'] => true
  | '0' :: _ => false
  | digits => digits.all Char.isDigit

def isIndex (segment : String) : Bool := isIndexChars segment.toList

/-- The segment that denotes a position. -/
def ofIndex (position : Nat) : String := toString position

end FieldRules.Path
