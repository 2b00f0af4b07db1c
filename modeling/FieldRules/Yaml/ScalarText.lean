import FieldRules.Decimal.Numeral
import FieldRules.Yaml.Cursor

/-!
The texts of scalars: plain ones, quoted ones and blocks.
-/

namespace FieldRules.Yaml

/-- A text that has been read, in reverse, and the gap behind it. -/
structure Words where
  reversed : List Char := []
  gap : Gap := .none

namespace Words

/-- Adds text behind the gap. -/
def add (words : Words) (s : List Char) : Words :=
  ⟨s.reverse ++ (words.gap.text.reverse ++ words.reversed), .none⟩

def addBlank (words : Words) (c : Char) : Words := { words with gap := words.gap.addBlank c }

def addBreak (words : Words) (s : List Char) : Words := { words with gap := words.gap.addBreak s }

/-- The text without the gap at its end. -/
def text (words : Words) : List Char := words.reversed.reverse

end Words

/-- How many hexadecimal digits an escape takes. -/
def escapeDigits? : Char → Option Nat
  | 'x' => some 2
  | 'u' => some 4
  | 'U' => some 8
  | _ => none

/-- The characters that escapes of one letter stand for. -/
def escapeChar? (c : Char) : Option Char :=
  match c with
  | '0' => some '\x00'
  | 'a' => some '\x07'
  | 'b' => some '\x08'
  | 't' | '\t' => some '\t'
  | 'n' => some '\n'
  | 'v' => some '\x0b'
  | 'f' => some '\x0c'
  | 'r' => some '\r'
  | 'e' => some '\x1b'
  | ' ' => some ' '
  | '"' => some '"'
  | '/' => some '/'
  | '\\' => some '\\'
  | 'N' => some (Char.ofNat 0x85)
  | '_' => some (Char.ofNat 0xA0)
  | 'L' => some (Char.ofNat 0x2028)
  | 'P' => some (Char.ofNat 0x2029)
  | _ => none

/-- Reads an escape behind its backslash: the character, and the number of places it takes. -/
def escape? (s : List Char) : Option (Char × Nat) :=
  match s with
  | [] => none
  | c :: rest =>
    match escapeDigits? c with
    | some count => do
      let digits := rest.take count
      if digits.length < count then none
      let n ← Numeral.natural? 16 digits
      if n.isValidChar then some (Char.ofNat n, count + 1) else none
    | none => (escapeChar? c).map (·, 1)

/-- Reads a quoted scalar behind its opening quote. -/
def quoted? (double : Bool) (words : Words) (cur : Cursor) : Option (List Char × Cursor) :=
  if cur.atDocumentMark then none
  else
    match _h : cur.rest with
    | [] => none
    | c :: rest =>
      if !double && c == '\'' then
        if rest.head? = some '\'' then quoted? double (words.add ['\'']) (cur.skip.skip)
        else some ((words.add []).text, cur.skip)
      else if double && c == '"' then some ((words.add []).text, cur.skip)
      else if double && c == '\\' then
        if rest.head?.any isBreak then
          let words := words.add []
          quoted? double { words with gap := .lines [] [] } cur.skip.takeBreak.2
        else
          match escape? rest with
          | some (c, count) => quoted? double (words.add [c]) (cur.skip.skipMany count)
          | none => none
      else if isBlank c then quoted? double (words.addBlank c) cur.skip
      else if isBreak c then quoted? double (words.addBreak cur.takeBreak.1) cur.takeBreak.2
      else quoted? double (words.add [c]) cur.skip
termination_by cur.rest.length
decreasing_by
  all_goals
    have hskip := Cursor.length_skip ‹_›
    simp only [_h] at hskip ⊢
  · exact Nat.lt_of_le_of_lt (Cursor.length_skipMany_le cur.skip 1) hskip
  · exact Nat.lt_of_le_of_lt (Cursor.length_takeBreak_le _) hskip
  · exact Nat.lt_of_le_of_lt (Cursor.length_skipMany_le _ _) hskip
  · exact hskip
  · have := Cursor.length_takeBreak ‹cur.rest = _› ‹_›
    rwa [_h] at this
  · exact hskip

/-- A character ends a plain scalar: a colon before a blank, and in flow collections also commas,
brackets and braces. -/
def endsPlain (inFlow : Bool) (c : Char) (next : Option Char) : Bool :=
  (c == ':' && endsWord next) || (inFlow && ",[]\x7b\x7d".toList.contains c)

/-- A colon that may neither be part of a plain scalar nor end it. -/
def isStrayColon (inFlow : Bool) (c : Char) (next : Option Char) : Bool :=
  inFlow && c == ':' && next.any fun n => ",?[]\x7b\x7d".toList.contains n

/-- Reads a plain scalar, whose lines are indented by `indent`. The flag says whether the end of a
line was passed behind it. -/
def plain? (inFlow : Bool) (indent : Nat) (words : Words) (cur : Cursor) :
    Option (List Char × Bool × Cursor) :=
  let passedBreak := match words.gap with
    | .lines _ _ => true
    | .blanks _ => false
  let done := some (words.text, passedBreak, cur)
  match _h : cur.rest with
  | [] => done
  | c :: rest =>
    if isBlank c then
      if passedBreak && cur.column < indent && c == '\t' then none
      else plain? inFlow indent (words.addBlank c) cur.skip
    else if isBreak c then plain? inFlow indent (words.addBreak cur.takeBreak.1) cur.takeBreak.2
    else
      let startsWord := match words.gap with
        | .blanks [] => words.reversed.isEmpty
        | _ => true
      if startsWord
          && ((!inFlow && cur.column < indent && passedBreak) || cur.atDocumentMark || c == '#')
      then done
      else if isStrayColon inFlow c rest.head? then none
      else if endsPlain inFlow c rest.head? then done
      else plain? inFlow indent (words.add [c]) cur.skip
termination_by cur.rest.length
decreasing_by
  all_goals
    have hskip := Cursor.length_skip ‹_›
    simp only [_h] at hskip ⊢
  · exact hskip
  · have := Cursor.length_takeBreak ‹cur.rest = _› ‹_›
    rwa [_h] at this
  · exact hskip

/-- What becomes of the line ends behind a block. -/
inductive Chomping where
  | strip | clip | keep
  deriving DecidableEq, Repr

/-- Skips indentation and empty lines. Without `indent` all blanks count as indentation. Gives the
line ends and the widest indentation seen; a tab in the indentation is refused. -/
def blockBreaks? (indent : Option Nat) (breaks : List Char) (widest : Nat) (cur : Cursor) :
    Option (List Char × Nat × Cursor) :=
  let isInside := indent.all fun n => cur.column < n
  match _h : cur.rest with
  | [] => some (breaks, max widest cur.column, cur)
  | c :: _ =>
    if isInside && c == ' ' then blockBreaks? indent breaks widest cur.skip
    else if isInside && c == '\t' then none
    else if isBreak c then
      blockBreaks? indent (breaks ++ cur.takeBreak.1) (max widest cur.column) cur.takeBreak.2
    else some (breaks, max widest cur.column, cur)
termination_by cur.rest.length
decreasing_by
  all_goals
    have hskip := Cursor.length_skip ‹_›
    simp only [_h] at hskip ⊢
  · exact hskip
  · have := Cursor.length_takeBreak ‹cur.rest = _› ‹_›
    rwa [_h] at this

/-- The lines of a block that have been read, in reverse, and the line ends behind them. -/
structure BlockLines where
  reversed : List Char := []
  /-- The end of the last line. -/
  ending : List Char := []
  /-- The ends of the empty lines behind it. -/
  empties : List Char := []
  /-- The last line starts with a blank, so that its end stays. -/
  startsBlank : Bool := false

/-- Adds a line of a block. In a folded block the end of the line before becomes a blank or gives
way to empty lines, unless one of the two lines starts with a blank. -/
def BlockLines.add (lines : BlockLines) (folded : Bool) (line : List Char) : BlockLines :=
  let startsBlank := line.head?.any isBlank
  let ending :=
    if folded && lines.ending.head? == some '\n' && !lines.startsBlank && !startsBlank then
      if lines.empties.isEmpty then [' '] else []
    else lines.ending
  { reversed := line.reverse ++ (lines.empties.reverse ++ (ending.reverse ++ lines.reversed))
    startsBlank }

/-- Reads the lines of a block whose indentation is known. -/
def blockLines? (folded : Bool) (indent : Nat) (lines : BlockLines) (cur : Cursor) :
    Option (BlockLines × Cursor) :=
  if cur.column = indent ∧ !cur.rest.isEmpty then
    let (line, afterLine) := cur.takeWhile fun c => !isBreak c
    let (ending, afterBreak) := afterLine.takeBreak
    match blockBreaks? (some indent) [] 0 afterBreak with
    | none => none
    | some (empties, _, next) =>
      if next.rest.length < cur.rest.length then
        blockLines? folded indent { lines.add folded line with ending, empties } next
      else none
  else some (lines, cur)
termination_by cur.rest.length

/-- Reads the marks behind the sign that opens a block: how to treat line ends, and how far the
block is indented. They may stand in either order. -/
def blockHeader? (cur : Cursor) : Option (Chomping × Option Nat × Cursor) :=
  let chomping? (c : Option Char) : Option Chomping :=
    if c = some '+' then some .keep else if c = some '-' then some .strip else none
  let increment? (c : Option Char) : Option Nat :=
    (c.filter Char.isDigit).map fun c => c.toNat - 48
  let header : Chomping × Option Nat × Cursor := match chomping? cur.peek with
    | some chomping =>
      match increment? cur.skip.peek with
      | some n => (chomping, some n, cur.skip.skip)
      | none => (chomping, none, cur.skip)
    | none =>
      match increment? cur.peek with
      | some n =>
        match chomping? cur.skip.peek with
        | some chomping => (chomping, some n, cur.skip.skip)
        | none => (.clip, some n, cur.skip)
      | none => (.clip, none, cur)
  if header.2.1 = some 0 then none else some header

/-- Passes blanks and a comment. -/
def skipComment (cur : Cursor) : Cursor :=
  let cur := cur.skipWhile isBlank
  if cur.peek = some '#' then cur.skipWhile fun c => !isBreak c else cur

/-- Reads a block behind the sign that opens it; `parent` is the indentation of the collection
around it. -/
def block? (folded : Bool) (parent : Int) (cur : Cursor) : Option (List Char × Cursor) := do
  let (chomping, increment, cur) ← blockHeader? cur
  let cur := skipComment cur
  if !endsLine cur.peek then none
  let cur := cur.takeBreak.2
  let known := increment.map fun n => if 0 ≤ parent then parent.toNat + n else n
  let (empties, widest, cur) ← blockBreaks? known [] 0 cur
  let indent := known.getD (max widest (max (parent + 1).toNat 1))
  let (lines, cur) ← blockLines? folded indent { empties } cur
  let ending := if chomping = .strip then [] else lines.ending
  let empties := if chomping = .keep then lines.empties else []
  return (lines.reversed.reverse ++ ending ++ empties, cur)

end FieldRules.Yaml
