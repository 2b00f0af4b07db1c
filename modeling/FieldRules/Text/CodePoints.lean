/-!
Sets of code points, kept as ranges.
-/

namespace FieldRules

/-- A set of code points: ranges with both ends in the set, in ascending order and apart. -/
structure CodePointSet where
  ranges : List (Nat × Nat)
  deriving DecidableEq, Repr, Inhabited

namespace CodePointSet

/-- The greatest code point. -/
def top : Nat := 0x10FFFF

def empty : CodePointSet := ⟨[]⟩

def all : CodePointSet := ⟨[(0, top)]⟩

def contains (s : CodePointSet) (n : Nat) : Bool :=
  s.ranges.any fun range => range.1 ≤ n && n ≤ range.2

/-- Joins a range to the ranges that follow it, as far as they touch. -/
def mergeFrom (range : Nat × Nat) : List (Nat × Nat) → List (Nat × Nat)
  | [] => [range]
  | next :: rest =>
    if next.1 ≤ range.2 + 1 then mergeFrom (range.1, max range.2 next.2) rest
    else range :: mergeFrom next rest

/-- The set of all code points in some of the ranges, in whatever order these stand. -/
def ofRanges (ranges : List (Nat × Nat)) : CodePointSet :=
  match (ranges.filter fun r => r.1 ≤ r.2).mergeSort (fun a b => a.1 ≤ b.1) with
  | [] => empty
  | first :: rest => ⟨mergeFrom first rest⟩

def union (a b : CodePointSet) : CodePointSet := ofRanges (a.ranges ++ b.ranges)

/-- The gaps from a code point on. -/
def gapsFrom (start : Nat) : List (Nat × Nat) → List (Nat × Nat)
  | [] => if start ≤ top then [(start, top)] else []
  | range :: rest =>
    if start < range.1 then (start, range.1 - 1) :: gapsFrom (range.2 + 1) rest
    else gapsFrom (range.2 + 1) rest

def complement (s : CodePointSet) : CodePointSet := ⟨gapsFrom 0 s.ranges⟩

def inter (a b : CodePointSet) : CodePointSet := (a.complement.union b.complement).complement

def diff (a b : CodePointSet) : CodePointSet := a.inter b.complement

def symmDiff (a b : CodePointSet) : CodePointSet := (a.diff b).union (b.diff a)

/-- The decimal numbers of a text, whatever stands between them. -/
def numbers (s : String) : List Nat :=
  let step (acc : List Nat × Option Nat) (c : Char) : List Nat × Option Nat :=
    if c.isDigit then (acc.1, some (acc.2.getD 0 * 10 + (c.toNat - 48)))
    else (acc.2.toList ++ acc.1, none)
  let (done, last) := s.toList.foldl step ([], none)
  (last.toList ++ done).reverse

/-- Ranges from the lengths of the gaps before them and their own lengths in turn. -/
def fromGaps (start : Nat) : List Nat → List (Nat × Nat)
  | gap :: length :: rest =>
    (start + gap, start + gap + length - 1) :: fromGaps (start + gap + length) rest
  | _ => []

/-- A set from its written form: the length of each gap and of the range behind it. -/
def ofGaps (s : String) : CodePointSet := ⟨fromGaps 0 (numbers s)⟩

end CodePointSet

end FieldRules
