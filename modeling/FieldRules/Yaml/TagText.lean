import FieldRules.Text.Utf8
import FieldRules.Web.Percent
import FieldRules.Yaml.Cursor
import FieldRules.Yaml.ScalarText
import FieldRules.Yaml.Token

/-!
Tags, anchors and directives.
-/

namespace FieldRules.Yaml

/-- Characters of tags. Commas and brackets count only inside angle brackets. -/
def isTagChar (verbatim : Bool) (c : Char) : Bool :=
  isNameChar c || ";/?:@&=+$.!~*'()%".toList.contains c || (verbatim && ",[]".toList.contains c)

/-- Splits off a sequence of percent-encoded bytes and gives the character that they encode. -/
def percentChar? (s : List Char) : Option (Char × Nat) :=
  let byte? (s : List Char) : Option Nat :=
    match s with
    | '%' :: high :: low :: _ => do
      return (← Web.Percent.hexValue? high) * 16 + (← Web.Percent.hexValue? low)
    | _ => none
  do
    let first ← byte? s
    let count :=
      if first < 0x80 then 1
      else if first / 32 = 6 then 2
      else if first / 16 = 14 then 3
      else if first / 8 = 30 then 4
      else 0
    let bytes ← (List.range count).mapM fun i => byte? (s.drop (3 * i))
    match Text.Utf8.decode? (bytes.map UInt8.ofNat) with
    | some [c] => return (c, 3 * count)
    | _ => none

/-- Reads the characters of a tag, with percent signs decoded. -/
def tagChars? (verbatim : Bool) (acc : List Char) (cur : Cursor) : Option (List Char × Cursor) :=
  match _h : cur.rest with
  | [] => some (acc.reverse, cur)
  | c :: _ =>
    if c == '%' then
      match percentChar? cur.rest with
      | some (decoded, count + 1) => tagChars? verbatim (decoded :: acc) (cur.skip.skipMany count)
      | _ => none
    else if isTagChar verbatim c then tagChars? verbatim (c :: acc) cur.skip
    else some (acc.reverse, cur)
termination_by cur.rest.length
decreasing_by
  all_goals
    have hskip := Cursor.length_skip ‹_›
    simp only [_h] at hskip ⊢
  · exact Nat.lt_of_le_of_lt (Cursor.length_skipMany_le _ _) hskip
  · exact hskip

/-- Reads a handle: an exclamation mark, or a name between two of them. Without the second mark the
name is given with the handle. -/
def tagHandle? (cur : Cursor) : Option (List Char × Cursor) :=
  if cur.peek = some '!' then
    let (name, behind) := cur.skip.takeWhile isNameChar
    if behind.peek = some '!' then some ('!' :: name ++ ['!'], behind.skip)
    else some ('!' :: name, behind)
  else none

/-- The handle consists of two marks and what is between them. -/
def isNamedHandle (handle : List Char) : Bool := 1 < handle.length && handle.getLast? == some '!'

/-- Reads a tag: verbatim between angle brackets, or a handle and a suffix. -/
def tag? (inFlow : Bool) (cur : Cursor) : Option (Token × Cursor) := do
  let (token, cur) ←
    if cur.peek 1 = some '<' then do
      let (suffix, cur) ← tagChars? true [] cur.skip.skip
      if suffix.isEmpty ∨ cur.peek ≠ some '>' then none
      pure (Token.tag [] suffix, cur.skip)
    else do
      let (handle, cur) ← tagHandle? cur
      if isNamedHandle handle then
        let (suffix, cur) ← tagChars? false [] cur
        if suffix.isEmpty then none
        pure (Token.tag handle suffix, cur)
      else
        let (behind, cur) ← tagChars? false [] cur
        let suffix := handle.drop 1 ++ behind
        pure (if suffix.isEmpty then Token.tag [] ['!'] else Token.tag ['!'] suffix, cur)
  if endsWord cur.peek ∨ (inFlow ∧ cur.peek = some ',') then some (token, cur) else none

/-- Reads the name of an anchor or of an alias behind its sign. -/
def anchorName? (cur : Cursor) : Option (List Char × Cursor) :=
  let (name, behind) := cur.takeWhile isNameChar
  let isEnd := endsWord behind.peek || behind.peek.any fun c => "?:,]\x7d%@\x60".toList.contains c
  if name.isEmpty || !isEnd then none else some (name, behind)

/-- Reads a part of a version: at most nine digits. -/
def versionNumber? (cur : Cursor) : Option (Nat × Cursor) :=
  let (digits, behind) := cur.takeWhile Char.isDigit
  if digits.isEmpty ∨ 9 < digits.length then none else some (Numeral.ofDigits 10 digits, behind)

/-- Reads a directive behind its sign, and the line on which it stands. -/
def directive? (cur : Cursor) : Option (Token × Cursor) := do
  let (name, cur) := cur.takeWhile isNameChar
  if !endsWord cur.peek then none
  let cur := cur.skipWhile isBlank
  let (token, cur) ←
    if name = "YAML".toList then do
      let (major, cur) ← versionNumber? cur
      if cur.peek ≠ some '.' then none
      let (minor, cur) ← versionNumber? cur.skip
      pure (Token.versionDirective major minor, cur)
    else if name = "TAG".toList then do
      let (handle, cur) ← tagHandle? cur
      if handle ≠ ['!'] ∧ !isNamedHandle handle then none
      if !cur.peek.any isBlank then none
      let (start, cur) ← tagChars? true [] (cur.skipWhile isBlank)
      if start.isEmpty ∨ !endsWord cur.peek then none
      pure (Token.tagDirective handle start, cur)
    else none
  let cur := skipComment cur
  if endsLine cur.peek then some (token, cur.takeBreak.2) else none

end FieldRules.Yaml
