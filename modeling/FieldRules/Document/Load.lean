import FieldRules.Disk.Plan
import FieldRules.Document.Text

/-!
Loading of values and schemas from files, texts and values.
-/

namespace FieldRules.Document

/-- Stands for the path of a document that is not in a file. -/
def valuePath : String := "<value>"

/-- The value of a text that is said to be at a path. -/
def parse (path : String) (format : Format) (text : String) : Except LoadError Json :=
  match format.read text with
  | .ok v => .ok v
  | .error fault => .error ⟨path, fault⟩

/-- Reads the file at a path in the format of its extension. -/
def readFile (path : String) : Plan (Except LoadError Json) :=
  match Format.ofPath? path with
  | none => return .error ⟨path, .unknownFormat⟩
  | some format => .read path fun
    | .ok text => return parse path format text
    | .error fault => return .error ⟨path, .unreadable fault⟩

/-- How documents become schemas. -/
structure Loader where
  /-- The dialect of every document, whatever its tag; `none` leaves it to the tag. -/
  dialect : Option Dialect := none

namespace Loader

/-- The dialect in which a document at a path is read. -/
def resolve (loader : Loader) (path : String) (raw : Json) : Except LoadError Dialect :=
  match loader.dialect with
  | some dialect => .ok dialect
  | none =>
    match Dialect.detect raw with
    | .ok dialect => .ok dialect
    | .error fault => .error ⟨path, .tag fault⟩

/-- The schema that the document at a path stands for. -/
def schema (loader : Loader) (path : String) (raw : Json) : Except LoadError Schema := do
  let dialect ← loader.resolve path raw
  match dialect.decode raw with
  | .ok schema => return schema
  | .error fault => throw ⟨path, .schema dialect fault⟩

def loadValue (loader : Loader) (raw : Json) : Except LoadError Schema :=
  loader.schema valuePath raw

def loadText (loader : Loader) (format : Format) (text : String) : Except LoadError Schema := do
  loader.loadValue (← parse valuePath format text)

def loadFile (loader : Loader) (path : String) : Plan (Except LoadError Schema) := do
  return (← readFile path).bind (loader.schema path)

end Loader

end FieldRules.Document
