import FieldRules.Regex.Escape

/-!
Bracketed classes: unions of characters, ranges and classes, with nested brackets and the operators
for intersection, difference and symmetric difference.
-/

namespace FieldRules.Regex.Bracket

/-- The operators between unions. They bind less than the union and associate to the left. -/
inductive Operator where
  | intersection | difference | symmetricDifference

def Operator.apply : Operator → CodePointSet → CodePointSet → CodePointSet
  | .intersection => CodePointSet.inter
  | .difference => CodePointSet.diff
  | .symmetricDifference => CodePointSet.symmDiff

/-- A bracket that is open: whether it is negated, the operator that waits for its right side with
its left side, and the union that is being collected. -/
structure Level where
  negated : Bool
  pending : Option (Operator × CodePointSet)
  union : List (Nat × Nat)

namespace Level

/-- The value of what has been read of a level. Case is closed on both sides of an operator. -/
def value (f : Flags) (level : Level) : CodePointSet :=
  let right := CodePointSet.ofRanges level.union
  match level.pending with
  | none => right
  | some (operator, left) => operator.apply (f.closed left) (f.closed right)

def add (level : Level) (set : CodePointSet) : Level :=
  { level with union := level.union ++ set.ranges }

def addOperator (f : Flags) (level : Level) (operator : Operator) : Level :=
  { level with pending := some (operator, level.value f), union := [] }

/-- The set of a level at its closing bracket. -/
def close (f : Flags) (level : Level) : CodePointSet :=
  let set := f.closed (level.value f)
  if level.negated then set.complement else set

end Level

/-- Hyphens right behind an opening bracket stand for themselves. -/
def leadingHyphens (f : Flags) : Nat → List Char → Nat × List Char
  | 0, s => (0, s)
  | fuel + 1, s =>
    match s with
    | '-' :: rest =>
      let (count, rest) := leadingHyphens f fuel (f.skip rest)
      (count + 1, rest)
    | _ => (0, s)

/-- Opens a level behind its bracket: the negation, and the characters that only stand for
themselves in the first place. -/
def open? (f : Flags) (s : List Char) : Option (Level × List Char) :=
  let s := f.skip s
  let (negated, s) :=
    match s with
    | '^' :: rest => (true, f.skip rest)
    | _ => (false, s)
  let (hyphens, s) := leadingHyphens f s.length s
  let union := if hyphens = 0 then [] else [(0x2D, 0x2D)]
  match s with
  | [] => none
  | ']' :: rest =>
    if hyphens = 0 then
      let rest := f.skip rest
      if rest.isEmpty then none else some (⟨negated, none, [(0x5D, 0x5D)]⟩, rest)
    else some (⟨negated, none, union⟩, s)
  | _ => some (⟨negated, none, union⟩, s)

/-- A class named between `[:` and `:]`. -/
def asciiNamed? (f : Flags) (s : List Char) : Option (CodePointSet × List Char) :=
  match s with
  | '[' :: ':' :: rest =>
    let (negated, rest) :=
      match rest with
      | '^' :: rest => (true, rest)
      | _ => (false, rest)
    match rest.dropWhile (· != ':') with
    | ':' :: ']' :: tail =>
      (asciiClass? (String.ofList (rest.takeWhile (· != ':')))).map fun set =>
        (if negated then (f.closed set).complement else set, tail)
    | _ => none
  | _ => none

/-- One item of a union: an escape, or a character. -/
def item? (f : Flags) (s : List Char) : Option (Atom × List Char) :=
  match s with
  | [] => none
  | '\\' :: rest => escape? f rest
  | c :: rest => some (.char c, f.skip rest)

/-- An item or a range of characters. A hyphen before the closing bracket or before another hyphen
makes no range. -/
def itemOrRange? (f : Flags) (s : List Char) : Option (CodePointSet × List Char) := do
  let (first, rest) ← item? f s
  let rest := f.skip rest
  let single : Option (CodePointSet × List Char) :=
    match first with
    | .char c => some (⟨[(c.toNat, c.toNat)]⟩, rest)
    | .set set => some (set, rest)
    | .anchor _ => none
  match rest with
  | [] => none
  | '-' :: tail =>
    match f.skip tail with
    | ']' :: _ | '-' :: _ => single
    | tail => do
      let (last, tail) ← item? f tail
      match first, last with
      | .char a, .char b => if a.toNat ≤ b.toNat then some (⟨[(a.toNat, b.toNat)]⟩, tail) else none
      | _, _ => none
  | _ => single

/-- Reads on from inside the innermost of the open levels to the end of the outermost. -/
def loop (f : Flags) (fuel : Nat) (level : Level) (outer : List Level) (s : List Char) :
    Option (CodePointSet × List Char) :=
  match fuel with
  | 0 => none
  | fuel + 1 =>
    match f.skip s with
    | [] => none
    | ']' :: rest =>
      match outer with
      | [] => some (level.close f, rest)
      | next :: outer => loop f fuel (next.add (level.close f)) outer (f.skip rest)
    | '[' :: rest =>
      match asciiNamed? f ('[' :: rest) with
      | some (set, tail) => loop f fuel (level.add set) outer (f.skip tail)
      | none =>
        match open? f rest with
        | some (inner, tail) => loop f fuel inner (level :: outer) tail
        | none => none
    | '&' :: '&' :: rest => loop f fuel (level.addOperator f .intersection) outer (f.skip rest)
    | '-' :: '-' :: rest => loop f fuel (level.addOperator f .difference) outer (f.skip rest)
    | '~' :: '~' :: rest =>
      loop f fuel (level.addOperator f .symmetricDifference) outer (f.skip rest)
    | s =>
      match itemOrRange? f s with
      | some (set, rest) => loop f fuel (level.add set) outer rest
      | none => none

/-- The set of a bracketed class, behind its opening bracket. -/
def read? (f : Flags) (s : List Char) : Option (CodePointSet × List Char) := do
  let (level, rest) ← open? f s
  let (set, rest) ← loop f (s.length + 1) level [] rest
  let set ← f.allow set
  some (set, rest)

end FieldRules.Regex.Bracket
