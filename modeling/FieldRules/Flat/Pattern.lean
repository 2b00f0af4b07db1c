import FieldRules.Error
import FieldRules.Flat.Flatten
import FieldRules.Decimal.Numeral
import FieldRules.Regex.Literal
import FieldRules.Text.Quoted

/-!
Path patterns: paths in which a segment `*` stands for any array position.
-/

namespace FieldRules

/-- A path pattern and the separator that cuts it into segments. -/
structure Pattern where
  text : String
  separator : String
  text_ne_empty : text.isEmpty = false
  separator_ne_empty : separator.isEmpty = false
  deriving DecidableEq

namespace Pattern

/-- What a pattern asks of a key, piece by piece: a fixed text, or the text of a position. -/
inductive Piece where
  | text (chars : List Char)
  | index
  deriving DecidableEq, Repr

/-- A segment that is exactly an asterisk; one inside a longer segment is an ordinary character. -/
def Piece.ofSegment (segment : List Char) : Piece :=
  if segment = ['*'] then .index else .text segment

/-- The pieces of a pattern: its segments with the separator between them. -/
def piecesOf (separator : List Char) (segments : List (List Char)) : List Piece :=
  (segments.map Piece.ofSegment).intersperse (.text separator)

def compile (text separator : String) : Except Error Pattern :=
  if h : text.isEmpty = false then
    if h' : separator.isEmpty = false then .ok ⟨text, separator, h, h'⟩
    else .error (.invalidPattern text .emptySeparator)
  else .error (.invalidPattern text .emptyPattern)

def segments (p : Pattern) : List (List Char) := Path.cut p.separator.toList 0 p.text.toList

def pieces (p : Pattern) : List Piece := piecesOf p.separator.toList p.segments

def wildcards (p : Pattern) : Nat := p.segments.countP (· == ['*'])

def hasWildcards (p : Pattern) : Bool := p.wildcards != 0

/-- The expression of a segment: for an asterisk a zero or digits that begin with another one, and for
any other segment its own text. -/
def expressionOf (segment : List Char) : List Char :=
  if segment = ['*'] then "(0|[1-9][0-9]*)".toList else Regex.escape segment

/-- The regular expression that says which keys the pattern addresses. A key has to match as a whole. -/
def expression (p : Pattern) : String :=
  let segments := p.segments.map expressionOf
  String.ofList (['^'] ++ (Regex.escape p.separator.toList).intercalate segments ++ ['$'])

/-- The ways to take digits from the front of a text, the longest first. -/
def digitRuns : List Char → List (List Char × List Char)
  | [] => [([], [])]
  | c :: rest =>
    if c.isDigit then
      (digitRuns rest).map (fun run => (c :: run.1, run.2)) ++ [([], c :: rest)]
    else [([], c :: rest)]

/-- The ways to take a position from the front of a text, the longest first. A zero stands
alone. -/
def indexRuns : List Char → List (List Char × List Char)
  | [] => []
  | c :: rest =>
    if c = '0' then [(['0'], rest)]
    else if c.isDigit then (digitRuns rest).map fun run => (c :: run.1, run.2)
    else []

/-- The texts of the positions under which a key is made of the pieces: the first such list when
each position is taken as long as possible. -/
def bind? : List Piece → List Char → Option (List (List Char))
  | [], key => if key.isEmpty then some [] else none
  | .text chars :: rest, key =>
    if chars.isPrefixOf key then bind? rest (key.drop chars.length) else none
  | .index :: rest, key =>
    (indexRuns key).findSome? fun run => (bind? rest run.2).map (run.1 :: ·)

/-- The pattern addresses the key. -/
def test (p : Pattern) (key : String) : Bool := (bind? p.pieces key.toList).isSome

/-- The positions that the wildcards stand for in a key, if each fits 64 bits. -/
def captures? (p : Pattern) (key : String) : Option (List Nat) :=
  (bind? p.pieces key.toList).bind fun texts => texts.mapM Numeral.word?

/-- The pattern with its parts, as it is shown in a diagnosis. -/
def describe (p : Pattern) : String :=
  "PathPattern \x7b pattern: " ++ Text.quote p.text ++ ", separator: " ++ Text.quote p.separator ++
    ", wildcards: " ++ toString p.wildcards ++ " \x7d"

end Pattern

/-- The entries of a view whose keys the pattern addresses, in view order. -/
def FlatView.findMatches (view : FlatView) (p : Pattern) : FlatView :=
  let pieces := p.pieces
  view.filterKeys fun key => (Pattern.bind? pieces key.toList).isSome

end FieldRules
