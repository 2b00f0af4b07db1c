import FieldRules.Regex.Basic
import FieldRules.Text.Blank
import FieldRules.Text.CaseRun
import FieldRules.Text.Script

/-!
Named sets of characters, and the closing of a set under changes of case.
-/

namespace FieldRules.Regex

open Text

/-- Each code point that folds to another one, with that one. -/
def foldPairs : List (Nat × Nat) :=
  CaseRun.fold.flatMap fun run =>
    (List.range ((run.last - run.first) / run.stride + 1)).map fun i =>
      (run.first + i * run.stride, run.target + i * run.stride)

/-- The set with all characters that differ from one of its own in case only. -/
def closeCase (set : CodePointSet) : CodePointSet :=
  let folded :=
    (foldPairs.filter fun pair => set.contains pair.1 || set.contains pair.2).map Prod.snd
  let sources := (foldPairs.filter fun pair => folded.contains pair.2).map Prod.fst
  .ofRanges (set.ranges ++ (folded ++ sources).map fun n => (n, n))

def digitSet : CodePointSet := Category.setWhere (· == .nd)

def blankSet : CodePointSet :=
  ⟨[(9, 13), (0x20, 0x20), (0x85, 0x85), (0xA0, 0xA0), (0x1680, 0x1680), (0x2000, 0x200A),
    (0x2028, 0x2029), (0x202F, 0x202F), (0x205F, 0x205F), (0x3000, 0x3000)]⟩

def asciiDigitSet : CodePointSet := ⟨[(48, 57)]⟩

def asciiBlankSet : CodePointSet := ⟨[(9, 13), (32, 32)]⟩

/-- The ASCII classes, by their names between colons. -/
def asciiClass? (name : String) : Option CodePointSet :=
  match name with
  | "alnum" => some ⟨[(48, 57), (65, 90), (97, 122)]⟩
  | "alpha" => some ⟨[(65, 90), (97, 122)]⟩
  | "ascii" => some ⟨[(0, 127)]⟩
  | "blank" => some ⟨[(9, 9), (32, 32)]⟩
  | "cntrl" => some ⟨[(0, 31), (127, 127)]⟩
  | "digit" => some asciiDigitSet
  | "graph" => some ⟨[(33, 126)]⟩
  | "lower" => some ⟨[(97, 122)]⟩
  | "print" => some ⟨[(32, 126)]⟩
  | "punct" => some ⟨[(33, 47), (58, 64), (91, 96), (123, 126)]⟩
  | "space" => some asciiBlankSet
  | "upper" => some ⟨[(65, 90)]⟩
  | "word" => some asciiWordSet
  | "xdigit" => some ⟨[(48, 57), (65, 70), (97, 102)]⟩
  | _ => none

/-- A property name without what does not tell names apart: case, blanks, hyphens, underscores, and
a leading `is`. -/
def normalName (name : List Char) : String :=
  let start :=
    match name with
    | i :: s :: rest => if i.toLower = 'i' ∧ s.toLower = 's' then (true, rest) else (false, name)
    | _ => (false, name)
  let plain :=
    (start.2.filter fun c => c ≠ ' ' ∧ c ≠ '-' ∧ c ≠ '_' ∧ c.toNat < 128).map Char.toLower
  if start.1 && plain == ['c'] then "isc" else String.ofList plain

/-- The general category, or group of them, that a name stands for. -/
def categoryTest? (name : String) : Option (Category → Bool) :=
  match name with
  | "c" | "other" => some fun c => (c matches .cc | .cf | .cs | .co | .cn)
  | "cc" | "control" | "cntrl" => some (· == .cc)
  | "cf" | "format" => some (· == .cf)
  | "cn" | "unassigned" => some (· == .cn)
  | "co" | "privateuse" => some (· == .co)
  | "cs" | "surrogate" => some (· == .cs)
  | "l" | "letter" => some fun c => (c matches .lu | .ll | .lt | .lm | .lo)
  | "lc" | "casedletter" => some fun c => (c matches .lu | .ll | .lt)
  | "ll" | "lowercaseletter" => some (· == .ll)
  | "lm" | "modifierletter" => some (· == .lm)
  | "lo" | "otherletter" => some (· == .lo)
  | "lt" | "titlecaseletter" => some (· == .lt)
  | "lu" | "uppercaseletter" => some (· == .lu)
  | "m" | "mark" | "combiningmark" => some fun c => (c matches .mn | .mc | .me)
  | "mc" | "spacingmark" => some (· == .mc)
  | "me" | "enclosingmark" => some (· == .me)
  | "mn" | "nonspacingmark" => some (· == .mn)
  | "n" | "number" => some fun c => (c matches .nd | .nl | .no)
  | "nd" | "decimalnumber" | "digit" => some (· == .nd)
  | "nl" | "letternumber" => some (· == .nl)
  | "no" | "othernumber" => some (· == .no)
  | "p" | "punctuation" | "punct" =>
    some fun c => (c matches .pc | .pd | .ps | .pe | .pi | .pf | .po)
  | "pc" | "connectorpunctuation" => some (· == .pc)
  | "pd" | "dashpunctuation" => some (· == .pd)
  | "pe" | "closepunctuation" => some (· == .pe)
  | "pf" | "finalpunctuation" => some (· == .pf)
  | "pi" | "initialpunctuation" => some (· == .pi)
  | "po" | "otherpunctuation" => some (· == .po)
  | "ps" | "openpunctuation" => some (· == .ps)
  | "s" | "symbol" => some fun c => (c matches .sm | .sc | .sk | .so)
  | "sc" | "currencysymbol" => some (· == .sc)
  | "sk" | "modifiersymbol" => some (· == .sk)
  | "sm" | "mathsymbol" => some (· == .sm)
  | "so" | "othersymbol" => some (· == .so)
  | "z" | "separator" => some fun c => (c matches .zs | .zl | .zp)
  | "zl" | "lineseparator" => some (· == .zl)
  | "zp" | "paragraphseparator" => some (· == .zp)
  | "zs" | "spaceseparator" => some (· == .zs)
  | "assigned" => some (· != .cn)
  | _ => none

def category? (name : String) : Option CodePointSet :=
  match name with
  | "any" => some .all
  | "ascii" => some ⟨[(0, 127)]⟩
  | _ => (categoryTest? name).map Category.setWhere

/-- Characters that may start an identifier. -/
def identifierStart : CodePointSet :=
  let letters := Category.setWhere fun c => (c matches .lu | .ll | .lt | .lm | .lo | .nl)
  (letters.union ⟨[(0x1885, 0x1886), (0x2118, 0x2118), (0x212E, 0x212E), (0x309B, 0x309C)]⟩).diff
    ⟨[(0x2E2F, 0x2E2F)]⟩

/-- Characters that may continue an identifier. -/
def identifierContinue : CodePointSet :=
  .ofRanges (identifierStart.ranges ++
    (Category.setWhere fun c => (c matches .mn | .mc | .nd | .pc)).ranges ++
    [(0xB7, 0xB7), (0x387, 0x387), (0x1369, 0x1371), (0x19DA, 0x19DA)])

/-- Binary properties by name. -/
def property? (name : String) : Option CodePointSet :=
  match name with
  | "alphabetic" | "alpha" => some Property.alphabetic
  | "uppercase" | "upper" => some Property.uppercase
  | "lowercase" | "lower" => some Property.lowercase
  | "cased" => some Property.cased
  | "caseignorable" | "ci" => some Property.caseIgnorable
  | "whitespace" | "wspace" | "space" => some blankSet
  | "graphemeextend" | "grext" => some Property.graphemeExtend
  | "emoji" => some Property.emoji
  | "ideographic" | "ideo" => some Property.ideographic
  | "math" => some Property.math
  | "dash" => some Property.dash
  | "hexdigit" | "hex" => some Property.hexDigit
  | "asciihexdigit" | "ahex" => some ⟨[(48, 57), (65, 70), (97, 102)]⟩
  | "defaultignorablecodepoint" | "di" => some Property.defaultIgnorable
  | "joincontrol" | "joinc" => some ⟨[(0x200C, 0x200D)]⟩
  | "idstart" | "ids" => some identifierStart
  | "idcontinue" | "idc" => some identifierContinue
  | _ => none

/-- The set of a property query: a property, a category or a script by name alone. -/
def named? (name : String) : Option CodePointSet :=
  (property? name).orElse fun _ => (category? name).orElse fun _ => Script.find? name

/-- The set of a property query with a kind and a value. -/
def valued? (kind value : String) : Option CodePointSet :=
  match kind with
  | "gc" | "generalcategory" => category? value
  | "sc" | "script" | "scx" | "scriptextensions" => Script.find? value
  | _ => none

end FieldRules.Regex
