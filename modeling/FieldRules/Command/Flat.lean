import FieldRules.Flat.Deflate
import FieldRules.Flat.Flatten

/-!
Flat forms of whole documents: a list is a list of rows, each with a flat form of its own.
-/

namespace FieldRules.Command

/-- The flat form of a value, as an object from paths to terminals. -/
def flatObject (separator : String) (v : Json) : Json := .ofMap (v.flatten separator)

/-- The flat form of a document. -/
def flatDocument (separator : String) : Json → Json
  | .array rows => .array (rows.map (flatObject separator))
  | v => flatObject separator v

/-- What keeps a flat form from being turned back. -/
inductive FlatFault where
  /-- It is neither an object nor a list of objects. -/
  | form
  | engine (error : Error)
  deriving DecidableEq

/-- The value of a flat form. -/
def nestedValue (separator : String) : Json → Except FlatFault Json
  | .object members => (FlatView.deflate separator (.ofList members)).mapError .engine
  | _ => .error .form

/-- The document of a flat form. -/
def nestedDocument (separator : String) : Json → Except FlatFault Json
  | .array rows => (rows.mapM (nestedValue separator)).map .array
  | v => nestedValue separator v

end FieldRules.Command
