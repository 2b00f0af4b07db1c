import FieldRules.Regex.Literal

/-!
Patterns in which `%` stands for any run of characters and `_` for one character. Neither reaches
across a line feed.

A pattern is matched from its end. What is kept of a part of it is which ends of the text it
matches, so that the work grows with the product of the lengths.
-/

namespace FieldRules.Like

/-- The expression of a character of a pattern. -/
def expressionOf (p : Char) : List Char :=
  if p = '%' then ['.', '*'] else if p = '_' then ['.'] else Regex.escapeChar p

/-- The regular expression that says which texts match a pattern. A text has to match as a whole. -/
def expression (pattern : String) : String :=
  String.ofList (['^'] ++ pattern.toList.flatMap expressionOf ++ ['$'])

/-- A character of a pattern stands for a character of a text. -/
def fits (p c : Char) : Bool := if p = '_' then c != '\n' else p == c

/-- The ends of a text, from the whole text to the empty one, that are matched by a character of a
pattern before a part that matches the ends in `below`. -/
def endsWith (p : Char) : List Char → List Bool → List Bool
  | [], here => if p = '%' then here else [false]
  | c :: s, here :: below =>
    let shorter := endsWith p s below
    (if p = '%' then here || (c != '\n' && shorter.headD false)
      else fits p c && below.headD false) :: shorter
  | _ :: _, [] => []

/-- The ends of a text that a pattern matches, from the whole text to the empty one. -/
def matchedEnds : List Char → List Char → List Bool
  | [], s => s.map (fun _ => false) ++ [true]
  | p :: pattern, s => endsWith p s (matchedEnds pattern s)

/-- Whether a text matches a pattern. -/
def isMatch (pattern s : List Char) : Bool := (matchedEnds pattern s).headD false

end FieldRules.Like
