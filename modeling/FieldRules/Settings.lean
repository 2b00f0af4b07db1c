import FieldRules.Error
import FieldRules.Json.Decode
import FieldRules.Text.Blank

/-!
The settings of the engines.
-/

namespace FieldRules

/-- What the engines need to know besides the rules. -/
structure Settings where
  /-- Joins the segments of paths. -/
  separator : String := "."
  /-- The path of the value that identifies a row. -/
  idKey : Option String := none
  /-- The locale in which messages are recorded. -/
  locale : String := "en"
  /-- Rows may be checked side by side. This changes no result. -/
  parallelRows : Bool := false
  deriving DecidableEq, Repr, Inhabited

namespace Settings

/-- The first fault of the settings. -/
def fault? (settings : Settings) : Option SettingFault :=
  if settings.separator.isEmpty then some .emptySeparator
  else if (Text.trim settings.locale).isEmpty then some .blankLocale
  else if settings.idKey = some "" then some .emptyIdKey
  else none

/-- Refuses settings with a fault. -/
def check (settings : Settings) : Except Error Unit :=
  match settings.fault? with
  | some fault => .error (.setting fault)
  | none => .ok ()

open Json.Decode in
def ofJson : Json.Decoder Settings :=
  record "EngineConfig" [
    .given "separator" text fun s settings => { settings with separator := s },
    .given "id_key" (optional text) fun s settings => { settings with idKey := s },
    .given "locale" text fun s settings => { settings with locale := s },
    .given "parallel_rows" flag fun b settings => { settings with parallelRows := b }] {}

/-- A text, or null if there is none. -/
def textOrNull (s : Option String) : Json :=
  match s with
  | some s => .string s
  | none => .null

def toJson (settings : Settings) : Json := .object [
  ("separator", .string settings.separator),
  ("id_key", textOrNull settings.idKey),
  ("locale", .string settings.locale),
  ("parallel_rows", .bool settings.parallelRows)]

end Settings

end FieldRules
