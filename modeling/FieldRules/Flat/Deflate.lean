import FieldRules.Error
import FieldRules.Flat.Flatten
import FieldRules.Decimal.Numeral

/-!
Rebuilding a value from a flat view. The keys are first sorted into a tree of segments; only the
finished tree decides which containers are arrays, so the order of the entries does not.
-/

namespace FieldRules

/-- The segments of a view's keys as a tree, with the values at its leaves. -/
inductive PathTree where
  | leaf (value : Json)
  | branch (children : List (String × PathTree))
  deriving Inhabited

namespace PathTree

/-- Adds a value under the segments that lead to it from the children at a path. A value may not
share its path with another value or with a container. -/
def add (separator path : String) (children : List (String × PathTree)) (segments : List String)
    (value : Json) : Except Error (List (String × PathTree)) :=
  match segments with
  | [] => .ok children
  | [last] =>
    match Assoc.find? children last with
    | none => .ok (Assoc.put children last (.leaf value))
    | some _ => .error (.pathConflict (Path.join path last separator))
  | head :: rest =>
    let below := Path.join path head separator
    match Assoc.find? children head with
    | some (.leaf _) => .error (.pathConflict below)
    | some (.branch grandchildren) => do
      let grown ← add separator below grandchildren rest value
      .ok (Assoc.put children head (.branch grown))
    | none => do
      let grown ← add separator below [] rest value
      .ok (Assoc.put children head (.branch grown))

/-- The tree of a view, as the children of its root. -/
def ofView (separator : String) (view : FlatView) : Except Error (List (String × PathTree)) :=
  view.entries.foldlM
    (fun children entry => add separator "" children (Path.segments separator entry.1) entry.2) []

/-- The largest position of an array that is rebuilt. -/
def maxIndex : Nat := 1048576

/-- The position that a child's segment denotes, if an array may be that long. -/
def position (separator path segment : String) : Except Error Nat :=
  match (Numeral.word? segment.toList).filter (· ≤ maxIndex) with
  | some index => .ok index
  | none => .error (.indexOutOfRange (Path.join path segment separator) segment)

/-- The shortest array with these values at their positions, null between them. -/
def fill (placed : List (Nat × Json)) : List Json :=
  let size := placed.foldl (fun size entry => max size (entry.1 + 1)) 0
  (placed.foldl (fun items entry => items.setIfInBounds entry.1 entry.2)
    (Array.replicate size Json.null)).toList

mutual

/-- The value of a tree: children that are all positions make an array, children that are all
names an object. -/
def build (separator path : String) : PathTree → Except Error Json
  | .leaf value => .ok value
  | .branch children =>
    let indices := children.countP fun child => Path.isIndex child.1
    if indices = 0 then do
      let members ← buildChildren separator path children
      .ok (.object members)
    else if indices ≠ children.length then .error (.ambiguousContainer path)
    else do
      let positions ← children.mapM fun child => position separator path child.1
      let members ← buildChildren separator path children
      .ok (.array (fill (positions.zip (members.map Prod.snd))))

def buildChildren (separator path : String) :
    List (String × PathTree) → Except Error (List (String × Json))
  | [] => .ok []
  | (segment, child) :: rest => do
    let value ← build separator (Path.join path segment separator) child
    let values ← buildChildren separator path rest
    .ok ((segment, value) :: values)

end

end PathTree

/-- Rebuilds the value of a flat view. The empty view is the empty object; the empty key stands for
the whole value and suffers no other key beside it. -/
def FlatView.deflate (separator : String) (view : FlatView) : Except Error Json :=
  if separator.isEmpty then .error (.setting .emptySeparator)
  else
    match view.get? "" with
    | some value => if view.size = 1 then .ok value else .error (.pathConflict "")
    | none => do
      let children ← PathTree.ofView separator view
      PathTree.build separator "" (.branch children)

end FieldRules
