import FieldRules.Disk.Path
import FieldRules.Text.Utf8

/-!
Directories of files, and what reading and writing them does.

A disk is the content of the working directory. Paths are followed step by step from there, and what
lies outside of it is not there.
-/

namespace FieldRules

/-- Why a file cannot be read or written. -/
inductive DiskFault where
  | notFound
  | fileExists
  | notDirectory
  | isDirectory
  /-- The bytes are not those of a text. -/
  | notText
  | other (description : String)
  deriving DecidableEq, Repr

def DiskFault.message : DiskFault → String
  | .notFound => "No such file or directory (os error 2)"
  | .fileExists => "File exists (os error 17)"
  | .notDirectory => "Not a directory (os error 20)"
  | .isDirectory => "Is a directory (os error 21)"
  | .notText => "stream did not contain valid UTF-8"
  | .other description => description

/-- The text of bytes that are well formed. -/
def Text.ofBytes (bytes : List UInt8) : Except DiskFault String :=
  match Text.Utf8.decode? bytes with
  | some s => .ok (String.ofList s)
  | none => .error .notText

namespace Disk

/-- What a directory holds under a name. -/
inductive Entry where
  | file (bytes : List UInt8)
  | directory
  deriving DecidableEq

/-- The names on the way to an entry. -/
abbrev Place := List String

end Disk

/-- The entries of a working directory by their places. -/
structure Disk where
  entries : List (Disk.Place × Disk.Entry) := []

namespace Disk

instance : Inhabited Disk := ⟨{}⟩

/-- What stands at a place. The working directory is a directory. -/
def entry? (disk : Disk) (place : Place) : Option Entry :=
  if place.isEmpty then some .directory else disk.entries.lookup place

/-- Puts an entry in the place of what is there, or adds it. -/
def put (disk : Disk) (place : Place) (entry : Entry) : Disk :=
  if (disk.entries.lookup place).isSome then
    ⟨disk.entries.map fun old => if old.1 == place then (place, entry) else old⟩
  else ⟨disk.entries ++ [(place, entry)]⟩

/-- One step from a place, which has to be a directory. -/
def step (disk : Disk) (place : Place) (name : String) : Except DiskFault Place :=
  match disk.entry? place with
  | none => .error .notFound
  | some (.file _) => .error .notDirectory
  | some .directory =>
    if name = "" ∨ name = "." then .ok place
    else if name = ".." then (if place.isEmpty then .error .notFound else .ok place.dropLast)
    else
      match disk.entry? (place ++ [name]) with
      | some _ => .ok (place ++ [name])
      | none => .error .notFound

/-- Where a path leads. -/
def resolve (disk : Disk) (path : String) : Except DiskFault Place :=
  if path.isEmpty || path.startsWith "/" then .error .notFound
  else (Path.steps path).foldlM disk.step []

/-- A path leads somewhere. -/
def contains (disk : Disk) (path : String) : Bool := (disk.resolve path).toBool

/-- The text of a file. -/
def read (disk : Disk) (path : String) : Except DiskFault String := do
  match disk.entry? (← disk.resolve path) with
  | some (.file bytes) => Text.ofBytes bytes
  | some .directory => .error .isDirectory
  | none => .error .notFound

/-- Makes the directories on a way that are not there yet. -/
def makeWay (disk : Disk) (place : Place) : List String → Except DiskFault (Disk × Place)
  | [] => .ok (disk, place)
  | name :: rest => do
    if name = ".." then makeWay disk (← disk.step place name) rest
    else
      match disk.entry? (place ++ [name]) with
      | some .directory => makeWay disk (place ++ [name]) rest
      | some (.file _) => .error (if rest.isEmpty then .fileExists else .notDirectory)
      | none => makeWay (disk.put (place ++ [name]) .directory) (place ++ [name]) rest

/-- Writes a file, with the directories that lead to it. -/
def write (disk : Disk) (path text : String) : Except DiskFault Disk := do
  if path.isEmpty || path.startsWith "/" then throw .notFound
  let (disk, place) ← disk.makeWay [] (Path.names path).dropLast
  match (Path.steps path).getLast?, Path.fileName? path with
  | some last, some name =>
    if last != name then throw .isDirectory
    match disk.entry? (place ++ [name]) with
    | some .directory => throw .isDirectory
    | _ => return disk.put (place ++ [name]) (.file (Text.Utf8.encode text.toList))
  | _, _ => throw .isDirectory

/-- Adds a file or directory as it is, with the directories that lead to it. What cannot stand there
is left out. -/
def add (disk : Disk) (path : String) (entry : Entry) : Disk :=
  match (Path.names path).getLast?, disk.makeWay [] (Path.names path).dropLast with
  | some name, .ok (disk, place) => disk.put (place ++ [name]) entry
  | _, _ => disk

end Disk

end FieldRules
