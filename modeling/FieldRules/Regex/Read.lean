import FieldRules.Regex.Bracket

/-!
Regular expressions from their texts.
-/

namespace FieldRules.Regex

/-- What is read of a group so far: finished branches and the items of the current one, both newest
first. A change of flags is an item of no expression. -/
structure Group where
  branches : List Regex
  items : List (Option Regex)
  deriving Inhabited

namespace Group

def empty : Group := ⟨[], []⟩

def branch (g : Group) : Regex := seqAll (g.items.reverse.filterMap id)

def nextBranch (g : Group) : Group := ⟨g.branch :: g.branches, []⟩

def add (g : Group) (item : Option Regex) : Group := { g with items := item :: g.items }

/-- The expression of a finished group. -/
def close (g : Group) : Regex := g.branches.foldl (fun right left => .either left right) g.branch

/-- Repeats the last item, which must be an expression. -/
def repeatLast? (g : Group) (least : Nat) (most : Option Nat) : Option Group :=
  match g.items with
  | some r :: items => some { g with items := some (.times r least most) :: items }
  | _ => none

end Group

/-- The reader between two elements: the innermost group, the groups around it with the flags to
return to, the flags in force, and the group names in use. -/
structure Reading where
  group : Group
  outer : List (Group × Flags)
  flags : Flags
  names : List (List Char)

/-- Reads flags up to the mark that ends them. A flag may be given once, and a hyphen turns off all
that follow it. -/
def flags? (f : Flags) (negated : Bool) (seen : List Char) (s : List Char) :
    Option (Flags × Bool × Char × List Char) :=
  match s with
  | [] => none
  | c :: rest =>
    let afterHyphen := seen.head? == some '-'
    if c = ':' ∨ c = ')' then
      if afterHyphen then none else some (f, seen.isEmpty, c, rest)
    else if seen.contains c then none
    else
      match c with
      | '-' => flags? f true (c :: seen) rest
      | 'i' => flags? { f with caseless := !negated } negated (c :: seen) rest
      | 'm' => flags? { f with multiLine := !negated } negated (c :: seen) rest
      | 's' => flags? { f with dotAll := !negated } negated (c :: seen) rest
      | 'U' => flags? f negated (c :: seen) rest
      | 'u' => flags? { f with unicode := !negated } negated (c :: seen) rest
      | 'R' => flags? { f with anyBreak := !negated } negated (c :: seen) rest
      | 'x' => flags? { f with verbose := !negated } negated (c :: seen) rest
      | _ => none

/-- A group name up to its closing mark. -/
def groupName? (s : List Char) : Option (List Char × List Char) :=
  let name := s.takeWhile (· != '>')
  let isLetter (c : Char) : Bool := c == '_' || Text.Property.alphabetic.contains c.toNat
  let isInner (c : Char) : Bool :=
    isLetter c || c == '.' || c == '[' || c == ']' ||
      (Text.Category.ofCodePoint c.toNat matches .nd | .nl | .no)
  match name, s.dropWhile (· != '>') with
  | first :: inner, _ :: rest =>
    if isLetter first && inner.all isInner then some (name, rest) else none
  | _, _ => none

/-- Opens a group behind its parenthesis, or changes the flags. -/
def open? (st : Reading) (s : List Char) : Option (Reading × List Char) :=
  let enter (flags : Flags) : Reading :=
    { st with group := .empty, outer := (st.group, st.flags) :: st.outer, flags := flags }
  let named (s : List Char) : Option (Reading × List Char) := do
    let (name, rest) ← groupName? s
    if st.names.contains name then none
    else some ({ enter st.flags with names := name :: st.names }, rest)
  if 250 ≤ st.outer.length then none
  else
    match st.flags.skip s with
    | '?' :: '=' :: _ | '?' :: '!' :: _ | '?' :: '<' :: '=' :: _ | '?' :: '<' :: '!' :: _ => none
    | '?' :: 'P' :: '<' :: rest | '?' :: '<' :: rest => named rest
    | '?' :: rest => do
      let (flags, noFlags, stop, rest) ← flags? st.flags false [] rest
      if stop = ')' then
        if noFlags then none
        else some ({ st with flags := flags, group := st.group.add none }, rest)
      else some (enter flags, rest)
    | rest => some (enter st.flags, rest)

/-- A number that fits 32 bits, with blanks around it. -/
def decimal? (s : List Char) : Option Nat × List Char :=
  let s := Text.trimStart s
  let digits := s.takeWhile Char.isDigit
  let rest := Text.trimStart (s.dropWhile Char.isDigit)
  ((Numeral.natural? 10 digits).filter (· < 0x100000000), rest)

/-- The bounds of a repetition, behind its brace. -/
def bounds? (f : Flags) (s : List Char) : Option (Nat × Option Nat × List Char) := do
  let (least, rest) := decimal? (f.skip s)
  let least ← least
  let (most, rest) ←
    match rest with
    | ',' :: rest =>
      match f.skip rest with
      | '\x7d' :: tail => some (none, '\x7d' :: tail)
      | rest => do
        let (most, rest) := decimal? rest
        let most ← most
        some (some most, rest)
    | _ => some (some least, rest)
  match rest with
  | '\x7d' :: rest => if most.all (least ≤ ·) then some (least, most, rest) else none
  | _ => none

/-- A mark behind a repetition that asks for the shortest match; it changes no set of matches. -/
def skipLazy (f : Flags) (s : List Char) : List Char :=
  match f.skip s with
  | '?' :: rest => rest
  | s => s

def ofAtom (f : Flags) : Atom → Regex
  | .char c => .chars (f.closed ⟨[(c.toNat, c.toNat)]⟩)
  | .set set => .chars set
  | .anchor condition => .anchor condition

/-- Any character, but for line breaks unless the flags say otherwise. -/
def dot? (f : Flags) : Option Regex :=
  let breaks : CodePointSet :=
    if f.dotAll then .empty else if f.anyBreak then ⟨[(10, 10), (13, 13)]⟩ else ⟨[(10, 10)]⟩
  if f.unicode then some (.chars breaks.complement) else none

/-- Reads one element. -/
def step (st : Reading) (s : List Char) : Option (Reading × List Char) :=
  let f := st.flags
  let add (r : Regex) : Reading := { st with group := st.group.add (some r) }
  let times (least : Nat) (most : Option Nat) (rest : List Char) : Option (Reading × List Char) :=
    (st.group.repeatLast? least most).map fun g => ({ st with group := g }, skipLazy f rest)
  match s with
  | [] => none
  | '(' :: rest => open? st rest
  | ')' :: rest =>
    match st.outer with
    | [] => none
    | (group, flags) :: outer =>
      some ({ st with group := group.add (some st.group.close), outer, flags }, rest)
  | '|' :: rest => some ({ st with group := st.group.nextBranch }, rest)
  | '[' :: rest => (Bracket.read? f rest).map fun (set, rest) => (add (.chars set), rest)
  | '?' :: rest => times 0 (some 1) rest
  | '*' :: rest => times 0 none rest
  | '+' :: rest => times 1 none rest
  | '\x7b' :: rest => do
    let (least, most, rest) ← bounds? f rest
    times least most rest
  | '.' :: rest => (dot? f).map fun r => (add r, rest)
  | '^' :: rest =>
    let condition :=
      if !f.multiLine then Anchor.textStart
      else if f.anyBreak then .lineStartAnyBreak else .lineStart
    some (add (.anchor condition), rest)
  | '$' :: rest =>
    let condition :=
      if !f.multiLine then Anchor.textEnd
      else if f.anyBreak then .lineEndAnyBreak else .lineEnd
    some (add (.anchor condition), rest)
  | '\\' :: rest => (escape? f rest).map fun (atom, rest) => (add (ofAtom f atom), rest)
  | c :: rest => some (add (ofAtom f (.char c)), rest)

/-- Reads elements to the end of the text. Each takes at least one character. -/
def loop (fuel : Nat) (st : Reading) (s : List Char) : Option Regex :=
  match fuel with
  | 0 => none
  | fuel + 1 =>
    match st.flags.skip s with
    | [] => if st.outer.isEmpty then some st.group.close else none
    | s => (step st s).bind fun (st, rest) => loop fuel st rest

/-- Reads an expression of whatever size. -/
def parse? (s : String) : Option Regex :=
  let chars := s.toList
  loop (chars.length + 1) ⟨.empty, [], .initial, []⟩ chars

/-- How many ranges reach across a code point. -/
def crossings (ranges : List (Nat × Nat)) (n : Nat) : Nat :=
  ranges.countP fun range => range.1 ≤ n && n < range.2

/-- The weight of ranges: little for ASCII alone, whose characters take one byte. Elsewhere each
range counts, and each step of a range to characters of more bytes. -/
def rangesWeight (ranges : List (Nat × Nat)) : Nat :=
  if ranges.all (·.2 < 0x80) then 64 + 8 * ranges.length
  else
    64 + 64 * ranges.length
      + 256 * (crossings ranges 0x7F + crossings ranges 0x7FF + crossings ranges 0xFFFF)

/-- The weight of a set, which is less for a single character of ASCII. -/
def setWeight (set : CodePointSet) : Nat :=
  match set.ranges with
  | [(first, last)] => if first = last ∧ last < 0x80 then 32 else rangesWeight [(first, last)]
  | ranges => rangesWeight ranges

/-- An estimate of the bytes that a matcher takes in which repetitions are written out. -/
def weight : Regex → Nat
  | .empty => 0
  | .chars set => setWeight set
  | .anchor _ => 0
  | .seq a b => a.weight + b.weight
  | .either a b => a.weight + b.weight + 40
  | .times r least none => max least 1 * r.weight + 40
  | .times r least (some most) => most * r.weight + (most - least) * 40

/-- The greatest weight of an expression. -/
def maxWeight : Nat := 10485760

/-- Reads an expression; one that is too large is refused like one that is malformed. -/
def read? (s : String) : Option Regex := (parse? s).filter (·.weight ≤ maxWeight)

end FieldRules.Regex
