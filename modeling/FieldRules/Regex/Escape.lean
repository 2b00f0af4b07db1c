import FieldRules.Regex.Classes
import FieldRules.Regex.Literal
import FieldRules.Text.Search
import FieldRules.Decimal.Numeral

/-!
The flags of a regular expression's text, and its escapes.
-/

namespace FieldRules.Regex

/-- How the text that follows is read. -/
structure Flags where
  caseless : Bool
  multiLine : Bool
  dotAll : Bool
  anyBreak : Bool
  verbose : Bool
  unicode : Bool
  deriving DecidableEq, Repr

def Flags.initial : Flags := ⟨false, false, false, false, false, true⟩

/-- Passes over blanks and comments; a comment runs from its mark to the end of the line. -/
def skipGaps (inComment : Bool) : List Char → List Char
  | [] => []
  | c :: rest =>
    if inComment then skipGaps (c != '\n') rest
    else if c = '#' then skipGaps true rest
    else if Text.isBlank c then skipGaps false rest
    else c :: rest

namespace Flags

/-- What follows the gaps that the flags allow. -/
def skip (f : Flags) (s : List Char) : List Char := if f.verbose then skipGaps false s else s

/-- The character next to be read and what stands behind it and its gaps. -/
def next? (f : Flags) (s : List Char) : Option (Char × List Char) :=
  match s with
  | [] => none
  | c :: rest => some (c, f.skip rest)

/-- A set must stay within ASCII where only bytes are matched. -/
def allow (f : Flags) (set : CodePointSet) : Option CodePointSet :=
  if f.unicode || set.ranges.all (fun r => r.2 ≤ 127) then some set else none

/-- The set with its case variants, where case is ignored. -/
def closed (f : Flags) (set : CodePointSet) : CodePointSet :=
  if !f.caseless then set
  else if f.unicode then closeCase set
  else set.union ((closeCase set).inter ⟨[(0, 127)]⟩)

end Flags

/-- One element of an expression or of a class. -/
inductive Atom where
  | char (c : Char)
  | set (chars : CodePointSet)
  | anchor (condition : Anchor)

/-- Punctuation and controls of ASCII may be escaped without need. -/
def isEscapable (c : Char) : Bool :=
  isMeta c || (c.toNat < 128 && !c.isAlphanum && c != '<' && c != '>')

def validChar? (n : Nat) : Option Char :=
  if n.isValidChar then some (Char.ofNat n) else none

/-- Exactly so many hexadecimal digits. -/
def hexFixed? (f : Flags) (count value : Nat) (s : List Char) : Option (Nat × List Char) :=
  match count, s with
  | 0, _ => some (value, s)
  | count + 1, c :: rest =>
    if Numeral.digitValue c < 16 then
      hexFixed? f count (value * 16 + Numeral.digitValue c) (f.skip rest)
    else none
  | _ + 1, [] => none

/-- The text up to a closing brace, without gaps. -/
def upToBrace? (f : Flags) (s : List Char) : Option (List Char × List Char) :=
  let inner := s.takeWhile (· != '\x7d')
  match s.dropWhile (· != '\x7d') with
  | _ :: rest =>
    let inner := if f.verbose then inner.filter fun c => !Text.isBlank c else inner
    some (inner, rest)
  | [] => none

/-- A character by its number, behind the letter that says how many digits there are. Two digits
stand for a byte where only bytes are matched. -/
def hexEscape? (f : Flags) (digits : Nat) (s : List Char) : Option (Atom × List Char) :=
  match f.skip s with
  | '\x7b' :: rest => do
    let (inner, rest) ← upToBrace? f rest
    let n ← Numeral.natural? 16 inner
    let c ← validChar? n
    some (.char c, f.skip rest)
  | s => do
    let (n, rest) ← hexFixed? f digits 0 s
    let c ← validChar? n
    if !f.unicode && digits == 2 && 128 ≤ n then none else some (.char c, rest)

/-- The set of a property query: a name, or a kind and a value with `=`, `:` or `!=` between. The
flag says that the query asks for all other characters. -/
def query? (inner : List Char) : Option (Bool × CodePointSet) :=
  let valued (parts : List Char × List Char) : Option CodePointSet :=
    valued? (normalName parts.1) (normalName parts.2)
  match Text.splitOnce? ['!', '='] inner with
  | some parts => (valued parts).map (true, ·)
  | none =>
    match Text.splitOnce? [':'] inner with
    | some parts => (valued parts).map (false, ·)
    | none =>
      match Text.splitOnce? ['='] inner with
      | some parts => (valued parts).map (false, ·)
      | none => (named? (normalName inner)).map (false, ·)

/-- A property class behind its letter. -/
def propertyEscape? (f : Flags) (negated : Bool) (s : List Char) : Option (Atom × List Char) := do
  if !f.unicode then none
  let (c, rest) ← f.next? (f.skip s)
  let (inner, rest) ← if c = '\x7b' then upToBrace? f rest else some ([c], rest)
  if inner = ['\\'] then none
  let (others, set) ← query? inner
  let set := f.closed set
  some (.set (if negated != others then set.complement else set), f.skip rest)

/-- A class of digits, blanks or word characters. -/
def perlEscape? (f : Flags) (set asciiSet : CodePointSet) (negated : Bool) (rest : List Char) :
    Option (Atom × List Char) := do
  let set := if f.unicode then set else asciiSet
  let set ← f.allow (if negated then set.complement else set)
  some (.set set, f.skip rest)

/-- A word boundary, with the kind of it between braces if that is given. Braces that hold anything
but letters are left for a repetition. -/
def boundaryEscape? (f : Flags) (rest : List Char) : Option (Atom × List Char) :=
  let ascii := !f.unicode
  let isKindChar (c : Char) : Bool := c.isAlpha || c == '-'
  match rest with
  | '\x7b' :: inner =>
    match f.skip inner with
    | [] => none
    | c :: tail =>
      if !isKindChar c then some (.anchor (.wordBoundary ascii), rest)
      else do
        let inner := c :: tail
        let isInner (c : Char) : Bool := isKindChar c || (f.verbose && Text.isBlank c)
        let name := (inner.takeWhile isInner).filter isKindChar
        match inner.dropWhile isInner with
        | '\x7d' :: rest =>
          let condition ←
            match String.ofList name with
            | "start" => some (Anchor.wordStart ascii)
            | "end" => some (Anchor.wordEnd ascii)
            | "start-half" => some (Anchor.wordStartHalf ascii)
            | "end-half" => some (Anchor.wordEndHalf ascii)
            | _ => none
          some (.anchor condition, f.skip rest)
        | _ => none
  | _ => some (.anchor (.wordBoundary ascii), f.skip rest)

/-- An escape, behind its backslash. Backward references and octal numbers are not known. -/
def escape? (f : Flags) (s : List Char) : Option (Atom × List Char) :=
  match s with
  | [] => none
  | c :: rest =>
    let char (c : Char) : Option (Atom × List Char) := some (.char c, f.skip rest)
    let anchor (condition : Anchor) : Option (Atom × List Char) :=
      some (.anchor condition, f.skip rest)
    match c with
    | 'x' => hexEscape? f 2 rest
    | 'u' => hexEscape? f 4 rest
    | 'U' => hexEscape? f 8 rest
    | 'p' => propertyEscape? f false rest
    | 'P' => propertyEscape? f true rest
    | 'd' => perlEscape? f digitSet asciiDigitSet false rest
    | 'D' => perlEscape? f digitSet asciiDigitSet true rest
    | 's' => perlEscape? f blankSet asciiBlankSet false rest
    | 'S' => perlEscape? f blankSet asciiBlankSet true rest
    | 'w' => perlEscape? f wordSet asciiWordSet false rest
    | 'W' => perlEscape? f wordSet asciiWordSet true rest
    | 'a' => char '\x07'
    | 'f' => char '\x0c'
    | 't' => char '\t'
    | 'n' => char '\n'
    | 'r' => char '\r'
    | 'v' => char '\x0b'
    | 'A' => anchor .textStart
    | 'z' => anchor .textEnd
    | 'b' => boundaryEscape? f rest
    | 'B' => anchor (.notWordBoundary !f.unicode)
    | '<' => anchor (.wordStart !f.unicode)
    | '>' => anchor (.wordEnd !f.unicode)
    | _ => if isEscapable c then char c else none

end FieldRules.Regex
