import FieldRules.Text.CodePoints

/-!
Functions on code points that are constant on runs.
-/

namespace FieldRules

/-- The first code points of runs, in ascending order, each with the value of its run. -/
structure CodePointMap (α : Type) where
  starts : Array (Nat × α)

namespace CodePointMap

/-- Runs that follow each other from `start` on, from their lengths and the codes of their
values. -/
def readFrom {α : Type} (decode : Nat → α) (start : Nat) : List Nat → List (Nat × α)
  | length :: code :: rest => (start, decode code) :: readFrom decode (start + length) rest
  | _ => []

/-- A map from its written form: the length and the code of each run in turn. -/
def ofRuns {α : Type} (decode : Nat → α) (text : String) : CodePointMap α :=
  ⟨(readFrom decode 0 (CodePointSet.numbers text)).toArray⟩

/-- The last run that starts at or before a code point, looked for between two positions. -/
def search {α : Type} (starts : Array (Nat × α)) (n lo hi : Nat) : Option α :=
  if lo + 1 < hi then
    let mid := (lo + hi) / 2
    if (starts[mid]?).any (·.1 ≤ n) then search starts n mid hi else search starts n lo mid
  else (starts[lo]?).map Prod.snd
termination_by hi - lo

/-- The value at a code point. -/
def find? {α : Type} (map : CodePointMap α) (n : Nat) : Option α :=
  search map.starts n 0 map.starts.size

end CodePointMap

end FieldRules
