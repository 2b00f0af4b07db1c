/-!
Places in a YAML text.
-/

namespace FieldRules.Yaml

/-- The text from a place on, and where the place is. -/
structure Cursor where
  rest : List Char
  /-- Characters before the place, in all and on its line, and lines before it. -/
  index : Nat := 0
  column : Nat := 0
  line : Nat := 0

/-- Characters that end a line. -/
def isBreak (c : Char) : Bool :=
  c == '\r' || c == '\n' || c.toNat == 0x85 || c.toNat == 0x2028 || c.toNat == 0x2029

def isBlank (c : Char) : Bool := c == ' ' || c == '\t'

/-- The end of a line or of the text. -/
def endsLine (c : Option Char) : Bool := c.all isBreak

/-- A blank, or the end of a line or of the text. -/
def endsWord (c : Option Char) : Bool := c.all fun c => isBlank c || isBreak c

/-- Letters, digits, `_` and `-`, which make up names. -/
def isNameChar (c : Char) : Bool := c.isAlphanum || c == '_' || c == '-'

namespace Cursor

/-- The character so many places on. -/
def peek (cur : Cursor) (n : Nat := 0) : Option Char := cur.rest[n]?

/-- Passes one character. A carriage return before a line feed does not end a line. -/
def skip (cur : Cursor) : Cursor :=
  match cur.rest with
  | [] => cur
  | c :: rest =>
    if isBreak c && !(c == '\r' && rest.head? == some '\n') then
      ⟨rest, cur.index + 1, 0, cur.line + 1⟩
    else ⟨rest, cur.index + 1, cur.column + 1, cur.line⟩

theorem length_skip {cur : Cursor} {c : Char} {rest : List Char} (h : cur.rest = c :: rest) :
    cur.skip.rest.length < cur.rest.length := by
  simp only [skip, h]
  split <;> simp

/-- Passes so many characters. -/
def skipMany (cur : Cursor) : Nat → Cursor
  | 0 => cur
  | n + 1 => cur.skip.skipMany n

theorem length_skipMany_le (cur : Cursor) (n : Nat) :
    (cur.skipMany n).rest.length ≤ cur.rest.length := by
  induction n generalizing cur with
  | zero => simp [skipMany]
  | succ n ih =>
    refine Nat.le_trans (ih _) ?_
    unfold skip
    split
    · simp
    · rename_i h
      split <;> simp [h]

/-- Passes characters that satisfy the predicate, and gives them. -/
def takeWhile (cur : Cursor) (p : Char → Bool) : List Char × Cursor :=
  let taken := cur.rest.takeWhile p
  (taken, cur.skipMany taken.length)

def skipWhile (cur : Cursor) (p : Char → Bool) : Cursor := (cur.takeWhile p).2

/-- Passes the end of a line, if the place is at one. It is given as a line feed, unless it is a
separator of lines or paragraphs. -/
def takeBreak (cur : Cursor) : List Char × Cursor :=
  match cur.rest with
  | '\r' :: '\n' :: _ => (['\n'], cur.skip.skip)
  | c :: _ =>
    if c.toNat == 0x2028 || c.toNat == 0x2029 then ([c], cur.skip)
    else if isBreak c then (['\n'], cur.skip)
    else ([], cur)
  | [] => ([], cur)

theorem length_takeBreak {cur : Cursor} {c : Char} {rest : List Char} (h : cur.rest = c :: rest)
    (hc : isBreak c = true) : cur.takeBreak.2.rest.length < cur.rest.length := by
  have hskip := length_skip h
  unfold takeBreak
  split
  · exact Nat.lt_of_le_of_lt (length_skipMany_le cur.skip 1) hskip
  · rename_i heq
    obtain ⟨rfl, -⟩ : _ = c ∧ _ := by simpa [h, eq_comm] using heq
    split
    · exact hskip
    · exact hskip
  · rename_i heq
    simp [h] at heq

theorem length_takeBreak_le (cur : Cursor) : cur.takeBreak.2.rest.length ≤ cur.rest.length := by
  unfold takeBreak
  split
  · exact Nat.le_trans (length_skipMany_le cur 2) (Nat.le_refl _)
  · split
    · exact length_skipMany_le cur 1
    · split
      · exact length_skipMany_le cur 1
      · exact Nat.le_refl _
  · exact Nat.le_refl _

/-- The line starts with three dots or hyphens that stand alone. -/
def atDocumentMark (cur : Cursor) : Bool :=
  cur.column == 0 &&
    (match cur.rest with
      | '-' :: '-' :: '-' :: rest | '.' :: '.' :: '.' :: rest => endsWord rest.head?
      | _ => false)

end Cursor

/-- White space between the words of a scalar that goes over several lines. -/
inductive Gap where
  /-- Blanks on one line, the last one first. -/
  | blanks (reversed : List Char)
  /-- The end of the first line, and the ends of the empty lines behind it. -/
  | lines (first others : List Char)

namespace Gap

def none : Gap := .blanks []

/-- Blanks behind the end of a line do not count. -/
def addBlank (gap : Gap) (c : Char) : Gap :=
  match gap with
  | .blanks reversed => .blanks (c :: reversed)
  | .lines first others => .lines first others

/-- Blanks before the end of a line do not count. -/
def addBreak (gap : Gap) (s : List Char) : Gap :=
  match gap with
  | .blanks _ => .lines s []
  | .lines first others => .lines first (others ++ s)

/-- The text that the gap stands for: one line end is a blank, and empty lines stay. -/
def text : Gap → List Char
  | .blanks reversed => reversed.reverse
  | .lines first others =>
    if first = ['\n'] then (if others.isEmpty then [' '] else others) else first ++ others

end Gap

end FieldRules.Yaml
