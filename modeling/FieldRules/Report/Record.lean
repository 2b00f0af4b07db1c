import FieldRules.Schema.Json

/-!
Records of what is wrong with data.
-/

namespace FieldRules

/-- One fault that was found in data. -/
structure Record where
  /-- The path of the value; the rule's pattern where nothing matches it or a dependency is
  missing. -/
  target : String
  validator : String
  messages : Localized := {}
  /-- The refused value, or null where there is none. -/
  value : Json
  /-- What identifies the row that holds the value. -/
  rowId : Option Json := none
  context : Option (OrderedMap Json) := none
  deriving DecidableEq, Inhabited

namespace Record

/-- Sets the message of a locale. -/
def withMessage (r : Record) (locale message : String) : Record :=
  { r with messages := r.messages.insert locale message }

/-- Adds the messages of locales that have none yet. -/
def withMessages (r : Record) (messages : Localized) : Record :=
  let fill (known : OrderedMap String) (entry : String × String) := known.insertIfNew entry.1 entry.2
  { r with messages := messages.entries.foldl fill r.messages }

/-- Files the record under a row, if there is one. -/
def tagged (r : Record) (rowId : Option Json) : Record :=
  match rowId with
  | some id => { r with rowId := some id }
  | none => r

def message? (r : Record) (locale : String) : Option String := r.messages.get? locale

/-- What a report files a record under: the text of the row's identity, and the target. -/
def key (r : Record) : Option String × String := (r.rowId.map Json.compact, r.target)

/-- Absent parts are not written. -/
def toJson (r : Record) : Json :=
  .object ([("target", .string r.target), ("validator", .string r.validator),
      ("messages", .ofMap (Localized.toJson r.messages)), ("value", r.value)]
    ++ (match r.rowId with | some id => [("row_id", id)] | none => [])
    ++ (match r.context with | some context => [("context", .ofMap context)] | none => []))

open Json.Decode in
def ofJson : Json.Decoder Record :=
  Json.Decode.record "ErrorRecord" [
    .required "target" text fun s r => { r with target := s },
    .required "validator" text fun s r => { r with validator := s },
    .required "messages" Localized.ofJson fun m r => { r with messages := m },
    .required "value" any fun v r => { r with value := v },
    .given "row_id" (optional any) fun v r => { r with rowId := v },
    .given "context" (optional Attributes.ofJson) fun m r => { r with context := m }]
    { target := "", validator := "", value := .null }

end Record

end FieldRules
