import FieldRules.Text.Search
import FieldRules.Toml.Scalar

/-!
TOML texts as tables.
-/

namespace FieldRules.Toml

/-- Characters of keys that are written without quotes. -/
def isKeyChar (c : Char) : Bool := c.isAlphanum || c == '_' || c == '-'

/-- One part of a key. -/
def keyPart? (s : List Char) : Option (String × List Char) :=
  match lineText? s with
  | some (text, rest) => some (String.ofList text, rest)
  | none =>
    let bare := s.takeWhile isKeyChar
    if bare.isEmpty then none else some (String.ofList bare, s.dropWhile isKeyChar)

/-- The parts of a key, with dots between them and blanks around each. -/
def key? (s : List Char) : Option (List String × List Char) := do
  let (part, rest) ← keyPart? (skipBlanks s)
  match skipBlanks rest with
  | '.' :: next =>
    if next.length < s.length then
      let (parts, rest) ← key? next
      return (part :: parts, rest)
    else none
  | rest => return ([part], rest)
termination_by s.length

/-- A key has fewer parts than this. -/
def maxParts : Nat := 80

/-- A key and the sign behind it. -/
def keyBefore? (sign : Char) (s : List Char) : Option (List String × List Char) := do
  let (parts, rest) ← key? s
  match rest with
  | c :: rest => if c = sign ∧ parts.length < maxParts then some (parts, rest) else none
  | [] => none

/-- What stands behind blanks, comments and ends of lines. -/
def skipLines (inComment : Bool) : List Char → List Char
  | [] => []
  | '\n' :: rest => skipLines false rest
  | '\r' :: '\n' :: rest => skipLines false rest
  | c :: rest =>
    if inComment then (if isPrintable c then skipLines true rest else c :: rest)
    else if c = '#' then skipLines true rest
    else if isBlank c then skipLines false rest
    else c :: rest

/-- What stands on the next line, if nothing but a comment is left of this one. -/
def nextLine? (s : List Char) : Option (List Char) :=
  let rest := match skipBlanks s with
    | '#' :: comment => comment.dropWhile isPrintable
    | rest => rest
  if rest.isEmpty then some [] else afterBreak? rest

mutual

/-- Reads a value with at most `depth` collections inside one another. -/
def value? (fuel depth : Nat) (s : List Char) : Option (Value × List Char) :=
  match fuel with
  | 0 => none
  | fuel + 1 =>
    match s with
    | '"' :: _ | '\'' :: _ => (text? s).map fun (text, rest) => (.text (String.ofList text), rest)
    | '[' :: rest =>
      if depth = 0 then none
      else (items? fuel (depth - 1) rest).map fun (items, rest) => (.array items, rest)
    | '\x7b' :: rest =>
      if depth = 0 then none
      else
        match skipBlanks rest with
        | '\x7d' :: rest => some (.table [], rest)
        | rest =>
          (pairs? fuel (depth - 1) [] rest).map fun (members, rest) =>
            (.table (membersToValues members), rest)
    | _ => (ofWord? (splitWord s).1).map (·, (splitWord s).2)

/-- Reads items up to a closing bracket. -/
def items? (fuel depth : Nat) (s : List Char) : Option (List Value × List Char) :=
  match fuel with
  | 0 => none
  | fuel + 1 =>
    match skipLines false s with
    | ']' :: rest => some ([], rest)
    | start => do
      let (item, rest) ← value? fuel depth start
      match skipLines false rest with
      | ']' :: rest => return ([item], rest)
      | ',' :: rest =>
        let (items, rest) ← items? fuel depth rest
        return (item :: items, rest)
      | _ => none

/-- Reads pairs up to a closing brace, into a table. There is at least one. -/
def pairs? (fuel depth : Nat) (table : Table) (s : List Char) : Option (Table × List Char) :=
  match fuel with
  | 0 => none
  | fuel + 1 => do
    let (parts, rest) ← keyBefore? '=' s
    let (v, rest) ← value? fuel depth (skipBlanks rest)
    let table ← table.add v parts
    match skipBlanks rest with
    | '\x7d' :: rest => return (table, rest)
    | ',' :: rest => pairs? fuel depth table rest
    | _ => none

end

/-- How deep collections may be nested. -/
def maxDepth : Nat := 79

/-- A document that is being read: its tables, and the header of the lines that follow. -/
structure Draft where
  root : Table := []
  header : List String := []

namespace Draft

/-- Goes on under a header in single brackets. -/
def openTable (draft : Draft) (parts : List String) : Option Draft := do
  let key ← parts.getLast?
  return ⟨← draft.root.alter (·.openTable key) parts.dropLast, parts⟩

/-- Goes on under a header in double brackets. -/
def openNext (draft : Draft) (parts : List String) : Option Draft := do
  let key ← parts.getLast?
  return ⟨← draft.root.alter (·.openNext key) parts.dropLast, parts⟩

/-- Adds a value under the header. -/
def add (draft : Draft) (parts : List String) (v : Value) : Option Draft := do
  return { draft with root := ← draft.root.alter (·.add v parts) draft.header }

/-- Reads a line that is not empty, and gives what is left behind its content. -/
def line? (draft : Draft) (s : List Char) : Option (Draft × List Char) := do
  match s with
  | '[' :: '[' :: rest =>
    match ← keyBefore? ']' rest with
    | (parts, ']' :: rest) => return (← draft.openNext parts, rest)
    | _ => none
  | '[' :: rest =>
    let (parts, rest) ← keyBefore? ']' rest
    return (← draft.openTable parts, rest)
  | _ =>
    let (parts, rest) ← keyBefore? '=' s
    let (v, rest) ← value? (2 * s.length + 2) maxDepth (skipBlanks rest)
    return (← draft.add parts v, rest)

/-- Reads lines up to the end of the text. -/
def lines? (draft : Draft) (s : List Char) : Option Draft :=
  match nextLine? s with
  | some [] => some draft
  | some next => if next.length < s.length then lines? draft next else none
  | none => do
    let (draft, rest) ← draft.line? (skipBlanks s)
    let next ← nextLine? rest
    if next.length < s.length then lines? draft next else none
termination_by s.length

end Draft

/-- The members of the document's table. -/
def read? (text : String) : Option (List (String × Value)) :=
  let s := match text.toList with
    | '\ufeff' :: rest => rest
    | s => s
  (Draft.lines? {} s).map fun draft => membersToValues draft.root

end FieldRules.Toml
