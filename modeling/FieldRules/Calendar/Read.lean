import FieldRules.Calendar.Date
import FieldRules.Text.Blank

/-!
Instants from their written forms: the forms of the internet and of mail messages, and layouts with
and without an offset. What has no offset is in universal time.
-/

namespace FieldRules.Calendar

/-- A number that a written form holds. `shortYear` is a year of two digits. -/
inductive Field where
  | year
  | shortYear
  | month
  | day
  | hour
  | minute
  | second
  deriving DecidableEq, Repr

/-- What has been read of an instant. -/
structure Reading where
  year : Int := 0
  month : Nat := 1
  day : Nat := 1
  weekday : Option Nat := none
  hour : Nat := 0
  minute : Nat := 0
  second : Nat := 0
  nanos : Nat := 0
  /-- Seconds by which the written time is ahead of universal time. -/
  offset : Int := 0
  deriving DecidableEq, Repr

namespace Reading

/-- Notes a number; `none` if it is out of the field's range. -/
def note? (r : Reading) : Field → Int → Option Reading
  | .year, n => some { r with year := n }
  | .shortYear, n => some { r with year := if n < 70 then 2000 + n else 1900 + n }
  | .month, n => if 1 ≤ n ∧ n ≤ 12 then some { r with month := n.toNat } else none
  | .day, n => if 1 ≤ n ∧ n ≤ 31 then some { r with day := n.toNat } else none
  | .hour, n => if n ≤ 23 then some { r with hour := n.toNat } else none
  | .minute, n => if n ≤ 59 then some { r with minute := n.toNat } else none
  | .second, n => if n ≤ 60 then some { r with second := n.toNat } else none

def date (r : Reading) : Date := ⟨r.year, r.month, r.day⟩

/-- The instant that has been read; `none` if there is no such day, the day of the week is another,
or the offset is a day or more. Second 60 is a leap second. -/
def instant? (r : Reading) : Option Instant :=
  let fits := match r.weekday with
    | some weekday => r.date.weekday == weekday
    | none => true
  let second := min r.second 59
  let seconds := r.date.toDays * 86400 + r.hour * 3600 + r.minute * 60 + second - r.offset
  let year := (Date.ofDays (seconds / 86400)).year
  if r.date.isValid && fits && r.offset.natAbs < 86400
      && Date.firstYear ≤ year && year ≤ Date.lastYear then
    some ⟨seconds, r.nanos + (r.second - second) * 1000000000⟩
  else none

end Reading

/-- The text that is left to read, and what has been read. -/
abbrev Progress := Reading × List Char

def isDigit (c : Char) : Bool := '0' ≤ c && c ≤ '9'

def digitsValue (digits : List Char) : Nat :=
  digits.foldl (fun n c => n * 10 + (c.toNat - 48)) 0

/-- Splits off digits, at most `most` of them. -/
def splitDigits (most : Nat) (s : List Char) : List Char × List Char :=
  let digits := (s.take most).takeWhile isDigit
  (digits, s.drop digits.length)

/-- Reads a number of at least `least` and at most `most` digits. -/
def number? (field : Field) (least most : Nat) : Progress → Option Progress
  | (r, s) => do
    let (digits, rest) := splitDigits most s
    if digits.length < least then none
    else some (← r.note? field (digitsValue digits), rest)

/-- Reads a year whose digits are not limited behind a sign, and four at most without. -/
def signedYear? : Progress → Option Progress
  | (r, '-' :: s) => do
    let (digits, rest) := s.span isDigit
    if digits.isEmpty then none else some (← r.note? .year (-(digitsValue digits : Int)), rest)
  | (r, '+' :: s) => number? .year 1 s.length (r, s)
  | (r, s) => number? .year 1 4 (r, s)

def exactly? (c : Char) : Progress → Option Progress
  | (r, d :: s) => if c = d then some (r, s) else none
  | (_, []) => none

def skipBlanks : Progress → Progress
  | (r, s) => (r, s.dropWhile Text.isBlank)

/-- Skips one blank or more. -/
def blanks? : Progress → Option Progress
  | (r, c :: s) => if Text.isBlank c then some (r, s.dropWhile Text.isBlank) else none
  | (_, []) => none

/-- The place of the three letters that a text starts with, in a list of names. -/
def name? (names : List String) (s : List Char) : Option (Nat × List Char) :=
  let start := (String.ofList (s.take 3)).toLower
  match names.findIdx? (· == start) with
  | some i => some (i, s.drop 3)
  | none => none

def monthNames : List String :=
  ["jan", "feb", "mar", "apr", "may", "jun", "jul", "aug", "sep", "oct", "nov", "dec"]

def weekdayNames : List String := ["mon", "tue", "wed", "thu", "fri", "sat", "sun"]

def monthName? : Progress → Option Progress
  | (r, s) => (name? monthNames s).map fun (i, rest) => ({ r with month := i + 1 }, rest)

def weekdayName? : Progress → Option Progress
  | (r, s) => (name? weekdayNames s).map fun (i, rest) => ({ r with weekday := some i }, rest)

/-- Reads the digits of a fraction of a second; those behind the ninth are dropped. -/
def nanos? : Progress → Option Progress
  | (r, s) =>
    let (digits, rest) := s.span isDigit
    let kept := digits.take 9
    if digits.isEmpty then none
    else some ({ r with nanos := digitsValue (kept.rightpad 9 '0') }, rest)

/-- Reads a fraction if a point announces one. -/
def fraction? : Progress → Option Progress
  | (r, '.' :: s) => nanos? (r, s)
  | p => some p

/-- Reads a sign, two digits of hours and two of minutes, which `separate` takes apart. `longMinus`
admits the mathematical minus sign. -/
def offset? (longMinus : Bool) (separate : List Char → Option (List Char)) :
    Progress → Option Progress
  | (_, []) => none
  | (r, sign :: s) => do
    let isNegative := sign = '-' ∨ (sign = '−' ∧ longMinus)
    if !(sign = '+' ∨ isNegative) then none
    let (hours, rest) := splitDigits 2 s
    let rest ← separate rest
    let (minutes, rest) := splitDigits 2 rest
    if hours.length < 2 ∨ minutes.length < 2 ∨ 60 ≤ digitsValue minutes then none
    let seconds : Int := digitsValue hours * 3600 + digitsValue minutes * 60
    some ({ r with offset := if isNegative then -seconds else seconds }, rest)

/-- A part of a layout. Numbers and offsets may stand behind blanks. -/
inductive Item where
  | literal (c : Char)
  | blanks
  | number (field : Field)
  | month
  | weekday
  | fraction
  | offset
  deriving DecidableEq, Repr

def Item.read? : Item → Progress → Option Progress
  | .literal c, p => exactly? c p
  | .blanks, p => some (skipBlanks p)
  | .number .year, p => signedYear? (skipBlanks p)
  | .number field, p => number? field 1 2 (skipBlanks p)
  | .month, p => monthName? p
  | .weekday, p => weekdayName? p
  | .fraction, p => fraction? p
  | .offset, p =>
    offset? true (fun s => some (s.dropWhile fun c => c == ':' || Text.isBlank c)) (skipBlanks p)

/-- A sequence of parts that fill a text. -/
abbrev Layout := List Item

namespace Layout

/-- Reads all parts in turn; nothing may be left. -/
def read? (layout : Layout) (s : List Char) : Option Instant := do
  let (r, rest) ← layout.foldlM (fun p item => item.read? p) (({} : Reading), s)
  if rest.isEmpty then r.instant? else none

/-- Year, month and day between hyphens. -/
def day : Layout :=
  [.number .year, .literal '-', .number .month, .literal '-', .number .day]

/-- Hours, minutes and seconds between colons. -/
def time : Layout :=
  [.number .hour, .literal ':', .number .minute, .literal ':', .number .second]

/-- Names of the day and the month, the day, and the time. -/
def named : Layout :=
  [.weekday, .blanks, .month, .blanks, .number .day, .blanks] ++ time ++ [.blanks]

/-- The layouts, in the order in which they are tried. -/
def all : List Layout :=
  [named ++ [.offset, .blanks, .number .year],
    [.number .day, .blanks, .month, .blanks, .number .shortYear, .blanks, .number .hour,
      .literal ':', .number .minute, .blanks, .offset],
    day ++ [.blanks] ++ time,
    day ++ [.literal 'T'] ++ time,
    day ++ [.blanks] ++ time ++ [.fraction],
    day ++ [.literal 'T'] ++ time ++ [.fraction],
    named ++ [.number .year],
    day]

end Layout

/-- Reads the form of the internet: full widths, `T` or a blank before the time, and an offset or
`Z` behind it. -/
def internet? (s : List Char) : Option Instant := do
  let p ← number? .year 4 4 ({}, s) >>= exactly? '-' >>= number? .month 2 2 >>= exactly? '-'
    >>= number? .day 2 2
  let p ← match p with
    | (r, c :: rest) => if c = 'T' ∨ c = 't' ∨ c = ' ' then some (r, rest) else none
    | (_, []) => none
  let p ← number? .hour 2 2 p >>= exactly? ':' >>= number? .minute 2 2 >>= exactly? ':'
    >>= number? .second 2 2 >>= fraction?
  let (r, rest) ← match p with
    | (r, 'Z' :: rest) | (r, 'z' :: rest) => some (r, rest)
    | p => offset? true (fun s => (exactly? ':' (p.1, s)).map Prod.snd) p
  if rest.isEmpty then r.instant? else none

/-- Hours that the names of zones stand for; names of one letter but J say nothing. -/
def zoneHours? (name : String) : Option Int :=
  match name with
  | "gmt" | "ut" | "z" => some 0
  | "edt" => some (-4)
  | "est" | "cdt" => some (-5)
  | "cst" | "mdt" => some (-6)
  | "mst" | "pdt" => some (-7)
  | "pst" => some (-8)
  | name => if name.length = 1 ∧ name ≠ "j" then some 0 else none

/-- Reads a zone by its name or as an offset of four digits. -/
def mailZone? : Progress → Option Progress
  | (r, s) =>
    match s.span Char.isAlpha with
    | ([], _) => offset? false some (r, s)
    | (name, rest) =>
      (zoneHours? (String.ofList name).toLower).map fun hours =>
        ({ r with offset := hours * 3600 }, rest)

/-- The text behind the closing parenthesis of a comment; parentheses nest to `depth`, and a
backslash takes the next character out of account. -/
def commentEnd? (depth : Nat) : List Char → Option (List Char)
  | [] => none
  | '\\' :: _ :: rest => commentEnd? depth rest
  | c :: rest =>
    if c = ')' then
      if depth ≤ 1 then some rest else commentEnd? (depth - 1) rest
    else commentEnd? (if c = '(' then depth + 1 else depth) rest

theorem length_lt_of_commentEnd? {depth : Nat} {s rest : List Char}
    (h : commentEnd? depth s = some rest) : rest.length < s.length := by
  fun_induction commentEnd? depth s with
  | case1 => cases h
  | case2 depth _ s ih => exact Nat.lt_succ_of_lt (Nat.lt_succ_of_lt (ih h))
  | case3 =>
    cases h
    exact Nat.lt_succ_self _
  | case4 | case5 =>
    next ih => exact Nat.lt_succ_of_lt (ih h)

/-- Only comments are left. -/
def onlyComments (s : List Char) : Bool :=
  match _hopen : s.dropWhile Text.isBlank with
  | [] => s.isEmpty
  | '(' :: rest =>
    match _hclose : commentEnd? 1 rest with
    | some behind => onlyComments behind
    | none => false
  | _ => false
termination_by s.length
decreasing_by
  have hbehind := length_lt_of_commentEnd? _hclose
  have hrest := (List.dropWhile_sublist Text.isBlank (l := s)).length_le
  rw [_hopen, List.length_cons] at hrest
  omega

/-- Reads the form of mail messages: perhaps the day of the week and a comma, day, name of the
month, year, time, and zone. Years of two and of three digits count from 1900 or 2000. -/
def mail? (s : List Char) : Option Instant := do
  let start := s.dropWhile Text.isBlank
  let p ← match weekdayName? ({}, start) with
    | some p => exactly? ',' p
    | none => some ({}, start)
  let (r, s) ← number? .day 1 2 (skipBlanks p) >>= blanks? >>= monthName? >>= blanks?
  let (digits, rest) := s.span isDigit
  if digits.length < 2 then none
  let year : Int := digitsValue digits
  let year :=
    if digits.length = 2 ∧ year < 50 then year + 2000
    else if digits.length ≤ 3 then year + 1900
    else year
  let p ← blanks? ({ r with year := year }, rest) >>= number? .hour 2 2
  let p ← (exactly? ':' (skipBlanks p)).map skipBlanks >>= number? .minute 2 2
  let p ← match exactly? ':' (skipBlanks p) with
    | some p => number? .second 2 2 p
    | none => some p
  let (r, rest) ← blanks? p >>= mailZone?
  if onlyComments rest then r.instant? else none

/-- Reads an instant in the first form that fits. -/
def read? (text : String) : Option Instant :=
  let s := (Text.trim text).toList
  (internet? s).orElse fun _ => (mail? s).orElse fun _ => Layout.all.findSome? (·.read? s)

end FieldRules.Calendar
