import FieldRules.Yaml.Value

/-!
JSON values as YAML texts.

Collections stand in block form, unless they are empty; the items of a sequence under a key start in
the column of the key. A text is plain where it cannot be taken for anything else, quoted where it
could, and a literal block where it has several lines.
-/

namespace FieldRules.Yaml.Print

/-- Characters that stand for themselves. A tab does not. -/
def isPrintable (c : Char) : Bool :=
  let n := c.toNat
  n == 0x0A || (0x20 ≤ n && n ≤ 0x7E)
    || (0xA0 ≤ n && n != 0xFEFF && n != 0xFFFE && n != 0xFFFF)

/-- The ways to write a text. -/
inductive Form where
  | plain | single | double | literal
  deriving DecidableEq, Repr

/-- A character has a meaning of its own at the start of a plain scalar. -/
def isIndicatorAtStart (c : Char) (next : Option Char) : Bool :=
  "#,[]\x7b\x7d&*!|>'\"%@\x60".toList.contains c || ("?:-".toList.contains c && endsWord next)

/-- A colon before a blank, or a number sign behind one, inside a text. -/
def hasInnerIndicator : List Char → Bool
  | previous :: c :: rest =>
    (c == ':' && endsWord rest.head?) || (c == '#' && endsWord (some previous))
      || hasInnerIndicator (c :: rest)
  | _ => false

/-- Two characters of which the first and the second satisfy predicates stand next to each other. -/
def hasPair (p q : Char → Bool) : List Char → Bool
  | a :: b :: rest => (p a && q b) || hasPair p q (b :: rest)
  | _ => false

def isSpace (c : Char) : Bool := c == ' '

/-- All that is written can be shown, and no space stands before the end of a line. -/
def isClean (s : List Char) : Bool := s.all isPrintable && !hasPair isSpace isBreak s

/-- Single quotes hold the text. -/
def allowsSingle (s : List Char) : Bool := isClean s && !hasPair isBreak isSpace s

/-- A block holds the text. -/
def allowsBlock (s : List Char) : Bool := isClean s && !s.getLast?.any isSpace

/-- The text is one line without a mark that means something else. -/
def allowsPlain (s : List Char) : Bool :=
  match s with
  | [] => true
  | c :: rest =>
    s.all isPrintable && !s.any isBreak && !isSpace c && !s.getLast?.any isSpace
      && !isIndicatorAtStart c rest.head? && !hasInnerIndicator s
      && !"---".toList.isPrefixOf s && !"...".toList.isPrefixOf s

/-- A plain scalar with this text would be read as something else. -/
def looksOtherwise (s : String) : Bool :=
  match Look.ofPlain s with
  | .text => Look.isPaddedNumber s.toList
  | _ => true

/-- How a text is written. -/
def formOf (s : String) : Form :=
  let chars := s.toList
  if chars.contains '\n' then (if allowsBlock chars then .literal else .double)
  else if !looksOtherwise s && allowsPlain chars then .plain
  else if allowsSingle chars then .single
  else .double

def pad (n : Nat) : List Char := List.replicate n ' '

/-- Pads the lines of a text, but not empty ones; `atStart` says that a line starts here. -/
def padLines (indent : Nat) (atStart : Bool) : List Char → List Char
  | [] => []
  | c :: rest =>
    if isBreak c then c :: padLines indent true rest
    else (if atStart then pad indent else []) ++ c :: padLines indent false rest

/-- Digits of a number in base 16, in capitals. -/
def hexDigits (width n : Nat) : List Char :=
  let digits := (Nat.toDigits 16 n).map Char.toUpper
  List.replicate (width - digits.length) '0' ++ digits

/-- A character between double quotes. -/
def escaped (c : Char) : List Char :=
  if isPrintable c && !isBreak c && c != '"' && c != '\\' then [c]
  else
    '\\' :: match c.toNat with
      | 0x00 => ['0']
      | 0x07 => ['a']
      | 0x08 => ['b']
      | 0x09 => ['t']
      | 0x0A => ['n']
      | 0x0B => ['v']
      | 0x0C => ['f']
      | 0x0D => ['r']
      | 0x1B => ['e']
      | 0x22 => ['"']
      | 0x5C => ['\\']
      | 0x85 => ['N']
      | 0x2028 => ['L']
      | 0x2029 => ['P']
      | n =>
        if n ≤ 0xFF then 'x' :: hexDigits 2 n
        else if n ≤ 0xFFFF then 'u' :: hexDigits 4 n
        else 'U' :: hexDigits 8 n

/-- The marks behind the sign of a literal block: its indentation, where it does not show, and what
becomes of the line ends behind it. -/
def blockMarks (s : List Char) : List Char :=
  (if s.head?.any fun c => isSpace c || isBreak c then ['2'] else [])
    ++ match s.reverse with
      | last :: before =>
        if !isBreak last then ['-'] else if before.head?.all isBreak then ['+'] else []
      | [] => ['-']

/-- A text whose further lines are indented. -/
def text (indent : Nat) (s : String) : List Char :=
  let chars := s.toList
  match formOf s with
  | .plain => chars
  | .single =>
    let doubled := chars.flatMap fun c => if c = '\'' then ['\'', '\''] else [c]
    '\'' :: padLines indent false doubled
      ++ (if chars.getLast?.any isBreak then pad indent else []) ++ ['\'']
  | .double => '"' :: chars.flatMap escaped ++ ['"']
  | .literal => '|' :: blockMarks chars ++ '\n' :: padLines indent true chars

/-- A scalar, or an empty collection. -/
def terminal (indent : Nat) : Json → List Char
  | .null => "null".toList
  | .bool b => (if b then "true" else "false").toList
  | .number n => (n.textIn .yaml).toList
  | .string s => text indent s
  | .array _ => ['[', ']']
  | .object _ => ['\x7b', '\x7d']

/-- Ends the line, unless it has been ended. -/
def endLine (s : List Char) : List Char := if s.getLast?.any isBreak then s else s ++ ['\n']

/-- A key that stands on its line before the colon: at most 128 bytes in one line. -/
def isShortKey (key : String) : Bool := !key.toList.any isBreak && key.utf8ByteSize ≤ 128

/-- An empty collection. -/
def emptyCollection (v : Json) : List Char := endLine (terminal 0 v)

mutual

def items (column : Nat) : List Json → List Char
  | [] => []
  | item :: rest =>
    '-' :: ' ' :: behindMark column item
      ++ (if rest.isEmpty then [] else pad column ++ items column rest)

/-- A value behind the hyphen of an item, or behind the colon of a key that stands by itself. -/
def behindMark (column : Nat) : Json → List Char
  | .array list => if list.isEmpty then emptyCollection (.array []) else items (column + 2) list
  | .object pairs =>
    if pairs.isEmpty then emptyCollection (.object []) else members (column + 2) pairs
  | v => endLine (terminal (column + 2) v)

def members (column : Nat) : List (String × Json) → List Char
  | [] => []
  | pair :: rest =>
    member column pair ++ (if rest.isEmpty then [] else pad column ++ members column rest)

def member (column : Nat) : String × Json → List Char
  | (key, v) =>
    if isShortKey key then text (column + 2) key ++ ':' :: behindKey column v
    else
      '?' :: ' ' :: endLine (text (column + 2) key) ++ pad column
        ++ ':' :: ' ' :: behindMark column v

/-- A value behind the colon of a key on the same line. -/
def behindKey (column : Nat) : Json → List Char
  | .array list =>
    if list.isEmpty then ' ' :: emptyCollection (.array [])
    else '\n' :: pad column ++ items column list
  | .object pairs =>
    if pairs.isEmpty then ' ' :: emptyCollection (.object [])
    else '\n' :: pad (column + 2) ++ members (column + 2) pairs
  | v => ' ' :: endLine (terminal (column + 2) v)

end

/-- A whole document. -/
def document : Json → List Char
  | .array list => if list.isEmpty then emptyCollection (.array []) else items 0 list
  | .object pairs => if pairs.isEmpty then emptyCollection (.object []) else members 0 pairs
  | v => endLine (terminal 2 v)

end FieldRules.Yaml.Print

namespace FieldRules

/-- The value as a YAML text. -/
def Json.toYaml (v : Json) : String := String.ofList (Yaml.Print.document v)

end FieldRules
