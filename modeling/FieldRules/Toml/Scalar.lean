import FieldRules.Calendar.Date
import FieldRules.Decimal.Numeral
import FieldRules.Text.Search
import FieldRules.Toml.Basic

/-!
The scalars of TOML texts: strings in four forms, numbers, truth values, dates and times.
-/

namespace FieldRules.Toml

def isBlank (c : Char) : Bool := c == ' ' || c == '\t'

def skipBlanks (s : List Char) : List Char := s.dropWhile isBlank

/-- Characters that can stand in a comment: all but the controls, of which only the tab may. -/
def isPrintable (c : Char) : Bool := c == '\t' || (0x20 ≤ c.toNat && c.toNat ≠ 0x7F)

/-- What stands behind the end of a line. -/
def afterBreak? : List Char → Option (List Char)
  | '\n' :: rest => some rest
  | '\r' :: '\n' :: rest => some rest
  | _ => none

/-- The character for a letter behind a backslash. -/
def escapeLetter? : Char → Option Char
  | 'b' => some '\x08'
  | 't' => some '\t'
  | 'n' => some '\n'
  | 'f' => some '\x0c'
  | 'r' => some '\r'
  | '"' => some '"'
  | '\\' => some '\\'
  | _ => none

/-- The character whose code point is given by so many digits. -/
def codePoint? (count : Nat) (s : List Char) : Option (Char × List Char) := do
  let digits := s.take count
  if digits.length < count then none
  let n ← Numeral.natural? 16 digits
  if n.isValidChar then some (Char.ofNat n, s.drop count) else none

/-- The character for what stands behind a backslash. -/
def escape? : List Char → Option (Char × List Char)
  | 'u' :: rest => codePoint? 4 rest
  | 'U' :: rest => codePoint? 8 rest
  | c :: rest => (escapeLetter? c).map (·, rest)
  | [] => none

/-- A text up to its closing quote, with escapes. -/
def basicText (s : List Char) : Option (List Char × List Char) :=
  match s with
  | '"' :: rest => some ([], rest)
  | '\\' :: rest => do
    let (c, next) ← escape? rest
    if next.length ≤ rest.length then
      let (text, next) ← basicText next
      return (c :: text, next)
    else none
  | c :: rest =>
    if isPrintable c then (basicText rest).map fun (text, next) => (c :: text, next) else none
  | [] => none
termination_by s.length
decreasing_by
  all_goals simp_all only [List.length_cons]
  all_goals omega

/-- A text up to its closing apostrophe, without escapes. -/
def literalText : List Char → Option (List Char × List Char)
  | '\'' :: rest => some ([], rest)
  | c :: rest =>
    if isPrintable c then (literalText rest).map fun (text, next) => (c :: text, next) else none
  | [] => none

/-- A run of quotes that holds three of them closes a text of several lines. Up to two more before
those belong to the text. -/
def closing? (quote : Char) (s : List Char) : Option (List Char × List Char) :=
  let count := (s.takeWhile (· == quote)).length
  if count < 3 then none
  else
    let own := min (count - 3) 2
    some (List.replicate own quote, s.drop (own + 3))

/-- What stands behind blanks and empty lines. -/
def skipEmpty : List Char → List Char
  | '\n' :: rest => skipEmpty rest
  | '\r' :: '\n' :: rest => skipEmpty rest
  | c :: rest => if isBlank c then skipEmpty rest else c :: rest
  | [] => []

/-- What stands behind a backslash at the end of a line, and behind the blanks and empty lines that
follow. -/
def afterContinuation? (s : List Char) : Option (List Char) :=
  (afterBreak? (skipBlanks s)).map skipEmpty

/-- A text of several lines, with escapes. The ends of its lines are line feeds. -/
def basicLines (s : List Char) : Option (List Char × List Char) :=
  match closing? '"' s with
  | some closed => some closed
  | none =>
    match s with
    | [] => none
    | '\\' :: rest =>
      match afterContinuation? rest with
      | some next => if next.length ≤ rest.length then basicLines next else none
      | none => do
        let (c, next) ← escape? rest
        if next.length ≤ rest.length then
          let (text, next) ← basicLines next
          return (c :: text, next)
        else none
    | c :: rest =>
      match afterBreak? s with
      | some next =>
        if next.length ≤ rest.length then
          (basicLines next).map fun (text, next) => ('\n' :: text, next)
        else none
      | none =>
        if isPrintable c then (basicLines rest).map fun (text, next) => (c :: text, next) else none
termination_by s.length
decreasing_by
  all_goals simp_all only [List.length_cons]
  all_goals omega

/-- A text of several lines, without escapes. -/
def literalLines (s : List Char) : Option (List Char × List Char) :=
  match closing? '\'' s with
  | some closed => some closed
  | none =>
    match s with
    | [] => none
    | c :: rest =>
      match afterBreak? s with
      | some next =>
        if next.length ≤ rest.length then
          (literalLines next).map fun (text, next) => ('\n' :: text, next)
        else none
      | none =>
        if isPrintable c then (literalLines rest).map fun (text, next) => (c :: text, next)
        else none
termination_by s.length
decreasing_by
  all_goals simp_all only [List.length_cons]
  all_goals omega

/-- The end of a line right behind the opening quotes does not count. -/
def skipFirstBreak (s : List Char) : List Char := (afterBreak? s).getD s

/-- A text on one line, in quotes or apostrophes. -/
def lineText? : List Char → Option (List Char × List Char)
  | '"' :: rest => basicText rest
  | '\'' :: rest => literalText rest
  | _ => none

/-- A text in one of the four forms. -/
def text? : List Char → Option (List Char × List Char)
  | '"' :: '"' :: '"' :: rest => basicLines (skipFirstBreak rest)
  | '\'' :: '\'' :: '\'' :: rest => literalLines (skipFirstBreak rest)
  | s => lineText? s

/-- Digits of a radix with single underscores between them, which do not count. -/
def digits? (radix : Nat) (s : List Char) : Option (List Char) :=
  match s with
  | [] => none
  | [c] => if Numeral.digitValue c < radix then some [c] else none
  | c :: '_' :: rest =>
    if Numeral.digitValue c < radix then (digits? radix rest).map (c :: ·) else none
  | c :: rest => if Numeral.digitValue c < radix then (digits? radix rest).map (c :: ·) else none

/-- Decimal digits without zeros before them. -/
def plainDigits? (s : List Char) : Option (List Char) :=
  (digits? 10 s).filter fun digits => digits.length = 1 || digits.head? != some '0'

/-- A sign, and what stands behind it. -/
def splitSign : List Char → Bool × List Char
  | '-' :: rest => (true, rest)
  | '+' :: rest => (false, rest)
  | s => (false, s)

/-- A whole number of at most 64 bits. -/
def whole? (s : List Char) : Option Int :=
  let n : Option Int := match s with
    | '0' :: 'x' :: rest => (digits? 16 rest).map fun d => Numeral.ofDigits 16 d
    | '0' :: 'o' :: rest => (digits? 8 rest).map fun d => Numeral.ofDigits 8 d
    | '0' :: 'b' :: rest => (digits? 2 rest).map fun d => Numeral.ofDigits 2 d
    | _ =>
      (plainDigits? (splitSign s).2).map fun d =>
        if (splitSign s).1 then -(Numeral.ofDigits 10 d : Int) else Numeral.ofDigits 10 d
  n.filter fun n => -0x8000000000000000 ≤ n ∧ n < 0x8000000000000000

/-- An exponent behind its letter. -/
def exponent? (s : List Char) : Option (List Char) :=
  let sign := if (splitSign s).1 then ['-'] else []
  (digits? 10 (splitSign s).2).map (sign ++ ·)

/-- The text of an exponent, if there is a letter for one in front of it. -/
def exponentPart? : List Char → Option (List Char)
  | [] => some []
  | _ :: rest => (exponent? rest).map ('e' :: ·)

def isExponentLetter (c : Char) : Bool := c == 'e' || c == 'E'

/-- The numeral of a number with a fraction, an exponent, or both. -/
def floatNumeral? (s : List Char) : Option (List Char) := do
  let mantissa := s.takeWhile (!isExponentLetter ·)
  let tail := s.dropWhile (!isExponentLetter ·)
  match Text.splitOnce? ['.'] mantissa with
  | some (before, behind) =>
    return (← plainDigits? before) ++ '.' :: (← digits? 10 behind) ++ (← exponentPart? tail)
  | none =>
    if tail.isEmpty then none
    return (← plainDigits? mantissa) ++ (← exponentPart? tail)

/-- A number with a fraction or an exponent, or one of the words for what is not finite. -/
def float? (s : List Char) : Option Double :=
  let (negative, s) := splitSign s
  if s = "inf".toList then some (.infinite negative)
  else if s = "nan".toList then some .nan
  else
    match (floatNumeral? s).bind (Numeral.decimal? negative) with
    | some (.infinite false) => none
    | x => x

/-- A number of two digits within bounds. -/
def pair? (lo hi : Nat) : List Char → Option (Nat × List Char)
  | a :: b :: rest =>
    match Numeral.natural? 10 [a, b] with
    | some n => if lo ≤ n ∧ n ≤ hi then some (n, rest) else none
    | none => none
  | _ => none

/-- What stands behind a date. -/
def afterDate? (s : List Char) : Option (List Char) := do
  let year ← Numeral.natural? 10 (s.take 4)
  let '-' :: rest := s.drop 4 | none
  let (month, rest) ← pair? 1 12 rest
  let '-' :: rest := rest | none
  let (day, rest) ← pair? 1 (Calendar.daysInMonth year month) rest
  if (s.take 4).length = 4 ∧ day ≠ 0 then some rest else none

/-- What stands behind a time of day, which has seconds and perhaps parts of them. -/
def afterTime? (s : List Char) : Option (List Char) := do
  let (_, rest) ← pair? 0 23 s
  let ':' :: rest := rest | none
  let (_, rest) ← pair? 0 59 rest
  let ':' :: rest := rest | none
  let (_, rest) ← pair? 0 60 rest
  match rest with
  | '.' :: c :: rest => if c.isDigit then some (rest.dropWhile Char.isDigit) else none
  | rest => some rest

/-- Behind a date and time there is nothing, or the distance from universal time. -/
def isOffset : List Char → Bool
  | [] | ['Z'] | ['z'] => true
  | sign :: rest =>
    (sign == '+' || sign == '-') &&
      (match pair? 0 23 rest with
        | some (_, ':' :: rest) =>
          (match pair? 0 59 rest with
            | some (_, []) => true
            | _ => false)
        | _ => false)

/-- A date, a time of day, or both. -/
def isMoment (s : List Char) : Bool :=
  match afterDate? s with
  | some [] => true
  | some (mark :: rest) =>
    (mark == 'T' || mark == 't' || mark == ' ') &&
      (match afterTime? rest with
        | some rest => isOffset rest
        | none => false)
  | none => afterTime? s == some []

/-- Characters of a word: a number, a truth value, a date or a time. -/
def isWordChar (c : Char) : Bool :=
  c.isAlphanum || c == '+' || c == '-' || c == '_' || c == '.' || c == ':'

/-- A date can go on behind one blank with a time of day. -/
def startsTime : List Char → Bool
  | ' ' :: a :: b :: ':' :: _ => a.isDigit && b.isDigit
  | _ => false

/-- The word at the start of a text. -/
def splitWord (s : List Char) : List Char × List Char :=
  let word := s.takeWhile isWordChar
  let rest := s.dropWhile isWordChar
  if afterDate? word = some [] ∧ startsTime rest then
    (word ++ ' ' :: (rest.drop 1).takeWhile isWordChar, (rest.drop 1).dropWhile isWordChar)
  else (word, rest)

/-- The value of a word. -/
def ofWord? (word : List Char) : Option Value :=
  if word = "true".toList then some (.flag true)
  else if word = "false".toList then some (.flag false)
  else if isMoment word then some .moment
  else
    match whole? word with
    | some n => some (.whole n)
    | none => (float? word).map .float

end FieldRules.Toml
