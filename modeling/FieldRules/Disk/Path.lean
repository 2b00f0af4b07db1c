import FieldRules.Flat.Path
import FieldRules.Text.Search

/-!
Paths of files: names behind one another with slashes between them.
-/

namespace FieldRules.Disk.Path

/-- All steps of a path, also those that lead nowhere. -/
def steps (path : String) : List String := FieldRules.Path.segments "/" path

/-- The steps that count: neither empty nor a single dot. -/
def names (path : String) : List String :=
  (steps path).filter fun name => name != "" && name != "."

/-- The name of the file or directory that a path leads to. Two dots are no name. -/
def fileName? (path : String) : Option String :=
  (names path).getLast?.filter (· != "..")

/-- What stands behind the last dot of the file's name, other than a dot that starts it. -/
def extension? (path : String) : Option String := do
  let name ← fileName? path
  let (stem, ending) ← Text.splitLast? '.' name.toList
  if stem.isEmpty then none else some (String.ofList ending)

/-- A single hyphen stands for the standard input. -/
def isInput (path : String) : Bool := (steps path).head? == some "-" && names path == ["-"]

end FieldRules.Disk.Path
