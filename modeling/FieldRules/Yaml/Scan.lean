import FieldRules.Yaml.TagText

/-!
YAML texts as tokens.

Block collections are opened where a line starts further to the right and closed where one starts
further to the left. A scalar turns out to be a key only when a colon follows it on its line; the
token that says so is put before it then.
-/

namespace FieldRules.Yaml

/-- A token that may turn out to start a key. -/
structure KeyPlace where
  /-- The number of tokens before it. -/
  token : Nat
  start : Cursor
  /-- Nothing but a key can stand there. -/
  isRequired : Bool

/-- What scanning keeps. -/
structure Scanner where
  cursor : Cursor
  tokens : Array Token := #[]
  /-- The column of the block collection around the place, and those of the collections around
  it. -/
  indent : Int := -1
  indents : List Int := []
  /-- A key may start here. -/
  keyAllowed : Bool := true
  /-- The place of a key outside flow collections, and one for each that is open, innermost
  first. -/
  keys : List (Option KeyPlace) := [none]

namespace Scanner

def inFlow (s : Scanner) : Bool := 1 < s.keys.length

def emit (s : Scanner) (token : Token) : Scanner := { s with tokens := s.tokens.push token }

/-- A key ends on its line, within 1024 characters. -/
def KeyPlace.isFresh (place : KeyPlace) (cur : Cursor) : Bool :=
  place.start.line == cur.line && cur.index ≤ place.start.index + 1024

/-- Gives up the innermost place of a key. -/
def dropKey? (s : Scanner) : Option Scanner :=
  match s.keys with
  | some place :: outer => if place.isRequired then none else some { s with keys := none :: outer }
  | _ => some s

/-- Notes that the next token may start a key. -/
def noteKey? (s : Scanner) : Option Scanner :=
  if s.keyAllowed then do
    let s ← s.dropKey?
    let place : KeyPlace :=
      ⟨s.tokens.size, s.cursor, !s.inFlow && s.indent == (s.cursor.column : Int)⟩
    return { s with keys := some place :: s.keys.drop 1 }
  else some s

/-- Opens a block collection at a column, unless the place is in it. The token that opens it is put
at a position among the tokens. -/
def openBlock (s : Scanner) (column : Nat) (token : Token) (position : Option Nat) : Scanner :=
  if !s.inFlow && s.indent < (column : Int) then
    let position := position.getD s.tokens.size
    { s with
      indents := s.indent :: s.indents
      indent := column
      tokens := s.tokens.insertIdxIfInBounds position token }
  else s

/-- Closes the block collections to the right of a column. -/
def closeBlocksAt (column indent : Int) (tokens : Array Token) :
    List Int → Int × List Int × Array Token
  | [] => (indent, [], tokens)
  | outer :: rest =>
    if column < indent then closeBlocksAt column outer (tokens.push .blockEnd) rest
    else (indent, outer :: rest, tokens)

def closeBlocks (s : Scanner) (column : Int) : Scanner :=
  if s.inFlow then s
  else
    let (indent, indents, tokens) := closeBlocksAt column s.indent s.tokens s.indents
    { s with indent, indents, tokens }

/-- Passes blanks, comments and line ends up to the next token. A byte order mark before the text
counts as a column. A tab does not indent a key. -/
def toNextToken (inFlow keyAllowed : Bool) (cur : Cursor) : Bool × Cursor :=
  match _h : cur.rest with
  | [] => (keyAllowed, cur)
  | c :: _ =>
    if (cur.column == 0 && c.toNat == 0xFEFF) || c == ' '
        || (c == '\t' && (inFlow || !keyAllowed)) then
      toNextToken inFlow keyAllowed cur.skip
    else if isBreak c then toNextToken inFlow (keyAllowed || !inFlow) cur.takeBreak.2
    else if c == '#' then
      let behind := cur.skip.skipWhile fun c => !isBreak c
      if behind.rest.length < cur.rest.length then toNextToken inFlow keyAllowed behind
      else (keyAllowed, cur)
    else (keyAllowed, cur)
termination_by cur.rest.length
decreasing_by
  · exact Cursor.length_skip _h
  · exact Cursor.length_takeBreak _h ‹_›
  · assumption

/-- Ends the text: closes all blocks. -/
def finish? (s : Scanner) : Option (Array Token) := do
  let s ← (s.closeBlocks (-1)).dropKey?
  return (s.emit .streamEnd).tokens

/-- Takes a mark at the start of a line that ends or starts a document. -/
def documentMark? (s : Scanner) (token : Token) : Option Scanner := do
  let s ← (s.closeBlocks (-1)).dropKey?
  return { s.emit token with keyAllowed := false, cursor := s.cursor.skipMany 3 }

def directiveLine? (s : Scanner) : Option Scanner := do
  let s ← (s.closeBlocks (-1)).dropKey?
  let (token, cursor) ← directive? s.cursor.skip
  return { s.emit token with keyAllowed := false, cursor }

def openFlow? (s : Scanner) (token : Token) : Option Scanner := do
  let s ← s.noteKey?
  return { s.emit token with keyAllowed := true, keys := none :: s.keys, cursor := s.cursor.skip }

def closeFlow? (s : Scanner) (token : Token) : Option Scanner := do
  let s ← s.dropKey?
  let keys := if s.inFlow then s.keys.drop 1 else s.keys
  return { s.emit token with keyAllowed := false, keys, cursor := s.cursor.skip }

def flowComma? (s : Scanner) : Option Scanner := do
  let s ← s.dropKey?
  return { s.emit .flowEntry with keyAllowed := true, cursor := s.cursor.skip }

/-- Takes the hyphen of an item. In a block it opens a sequence where there is none yet. -/
def blockItem? (s : Scanner) : Option Scanner := do
  if !s.inFlow && !s.keyAllowed then none
  let s ← (s.openBlock s.cursor.column .blockSequenceStart none).dropKey?
  return { s.emit .blockEntry with keyAllowed := true, cursor := s.cursor.skip }

/-- Takes the question mark of a key. -/
def explicitKey? (s : Scanner) : Option Scanner := do
  if !s.inFlow && !s.keyAllowed then none
  let s ← (s.openBlock s.cursor.column .blockMappingStart none).dropKey?
  return { s.emit .key with keyAllowed := !s.inFlow, cursor := s.cursor.skip }

/-- Takes a colon: what stands before it on its line is its key, if it can be. -/
def colon? (s : Scanner) : Option Scanner :=
  let plain? : Option Scanner := do
    if !s.inFlow && !s.keyAllowed then none
    let s := s.openBlock s.cursor.column .blockMappingStart none
    return { s.emit .value with keyAllowed := !s.inFlow, cursor := s.cursor.skip }
  match s.keys with
  | some place :: outer =>
    if KeyPlace.isFresh place s.cursor then
      let s := { s with
        tokens := s.tokens.insertIdxIfInBounds place.token .key
        keys := none :: outer }
      let s := s.openBlock place.start.column .blockMappingStart (some place.token)
      some { s.emit .value with keyAllowed := false, cursor := s.cursor.skip }
    else if place.isRequired then none
    else plain?.map fun s => { s with keys := none :: outer }
  | _ => plain?

/-- Takes a token that may start a key. -/
def keyStart? (s : Scanner) (read : Cursor → Option (Token × Cursor)) : Option Scanner := do
  let s ← s.noteKey?
  let (token, cursor) ← read s.cursor
  return { s.emit token with keyAllowed := false, cursor }

def plainScalar? (s : Scanner) : Option Scanner := do
  let s ← s.noteKey?
  let (text, passedBreak, cursor) ← plain? s.inFlow (s.indent + 1).toNat {} s.cursor
  return { s.emit (.scalar .plain text) with keyAllowed := passedBreak, cursor }

def blockScalar? (s : Scanner) (folded : Bool) : Option Scanner := do
  let s ← s.dropKey?
  let (text, cursor) ← block? folded s.indent s.cursor.skip
  return { s.emit (.scalar .block text) with keyAllowed := true, cursor }

/-- A plain scalar can start with the first of two characters. -/
def startsPlain (inFlow : Bool) (c : Char) (next : Option Char) : Bool :=
  if c == '-' then !next.all isBlank
  else if c == '?' || c == ':' then !inFlow && !endsWord next
  else !(isBlank c || isBreak c || ",[]\x7b\x7d#&*!|>'\"%@\x60".toList.contains c)

/-- A required key that is on another line, or too far away, will get no colon. -/
def lostKey (s : Scanner) : Bool :=
  s.keys.any fun place => place.any fun place =>
    place.isRequired && !KeyPlace.isFresh place s.cursor

/-- Takes the next token, which starts with the given character. -/
def next? (s : Scanner) (c : Char) : Option Scanner :=
  let next := s.cursor.peek 1
  let opensWord := s.inFlow || endsWord next
  if s.cursor.column == 0 && c == '%' then s.directiveLine?
  else if s.cursor.atDocumentMark then
    s.documentMark? (if c == '-' then .documentStart else .documentEnd)
  else if c == '[' then s.openFlow? .flowSequenceStart
  else if c == '\x7b' then s.openFlow? .flowMappingStart
  else if c == ']' then s.closeFlow? .flowSequenceEnd
  else if c == '\x7d' then s.closeFlow? .flowMappingEnd
  else if c == ',' then s.flowComma?
  else if c == '-' && endsWord next then s.blockItem?
  else if c == '?' && opensWord then s.explicitKey?
  else if c == ':' && opensWord then s.colon?
  else if c == '*' then
    s.keyStart? fun cur => (anchorName? cur.skip).map fun (name, cur) => (.alias name, cur)
  else if c == '&' then
    s.keyStart? fun cur => (anchorName? cur.skip).map fun (name, cur) => (.anchor name, cur)
  else if c == '!' then s.keyStart? (tag? s.inFlow)
  else if (c == '|' || c == '>') && !s.inFlow then s.blockScalar? (c == '>')
  else if c == '\'' || c == '"' then
    s.keyStart? fun cur =>
      (quoted? (c == '"') {} cur.skip).map fun (text, cur) => (.scalar .quoted text, cur)
  else if startsPlain s.inFlow c next then s.plainScalar?
  else none

/-- Takes all tokens. -/
def run? (s : Scanner) : Option (Array Token) :=
  let (keyAllowed, cursor) := toNextToken s.inFlow s.keyAllowed s.cursor
  let s' := { s with keyAllowed, cursor }
  if s'.lostKey then none
  else
    match cursor.rest with
    | [] => s'.finish?
    | c :: _ =>
      match (s'.closeBlocks cursor.column).next? c with
      | none => none
      | some after => if after.cursor.rest.length < s.cursor.rest.length then after.run? else none
termination_by s.cursor.rest.length

end Scanner

/-- Characters that a text may hold. -/
def isAllowed (c : Char) : Bool :=
  let n := c.toNat
  n == 9 || n == 10 || n == 13 || (0x20 ≤ n && n ≤ 0x7E) || n == 0x85 || (0xA0 ≤ n && n ≤ 0xD7FF)
    || (0xE000 ≤ n && n ≤ 0xFFFD) || 0x10000 ≤ n

/-- The tokens of a text; `none` if it is malformed. -/
def tokens? (text : String) : Option (List Token) :=
  let s := text.toList
  if s.all isAllowed then (Scanner.run? { cursor := { rest := s } }).map Array.toList else none

end FieldRules.Yaml
