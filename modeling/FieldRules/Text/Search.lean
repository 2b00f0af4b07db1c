/-!
Finding a part of a text.
-/

namespace FieldRules.Text

/-- What stands before and behind the first place where the mark stands. -/
def splitOnce? (mark : List Char) (s : List Char) : Option (List Char × List Char) :=
  if mark.isPrefixOf s then some ([], s.drop mark.length)
  else
    match s with
    | [] => none
    | c :: rest => (splitOnce? mark rest).map fun (before, behind) => (c :: before, behind)

/-- What stands before and behind the last place where the character stands. -/
def splitLast? (mark : Char) (s : List Char) : Option (List Char × List Char) :=
  match s with
  | [] => none
  | c :: rest =>
    match splitLast? mark rest with
    | some (before, behind) => some (c :: before, behind)
    | none => if c = mark then some ([], rest) else none

end FieldRules.Text
