import FieldRules.Json.Print
import FieldRules.Text.Quoted

/-!
Reading typed values out of JSON values.

A record is read from an object, member by member in document order, or from an array that holds its
fields in the order of their declaration. Reading stops at the first fault.
-/

namespace FieldRules.Json

/-- What keeps a JSON value from being read as a typed one. -/
inductive DecodeFault where
  /-- The value is not of the wanted form, which is named. -/
  | form (found : Json) (wanted : String)
  | missing (field : String)
  /-- An array is too short to hold all fields of a record that have to be given. -/
  | tooShort (length : Nat) (record : String) (count : Nat)
  | tooLong (length : Nat)
  deriving DecidableEq

/-- How a value is named where another one was wanted. -/
def found : Json → String
  | .null => "null"
  | .bool b => if b then "boolean \x60true\x60" else "boolean \x60false\x60"
  | .number (.whole value _) => s!"integer \x60{value}\x60"
  | .number (.real value) => "floating point \x60" ++ Decimal.Layout.pointed.write value ++ "\x60"
  | .string s => "string " ++ Text.quote s
  | .array _ => "sequence"
  | .object _ => "map"

def DecodeFault.message : DecodeFault → String
  | .form value wanted => s!"invalid type: " ++ value.found ++ ", expected " ++ wanted
  | .missing field => s!"missing field \x60{field}\x60"
  | .tooShort length record count =>
    s!"invalid length {length}, expected struct {record} with {count} element"
      ++ (if count = 1 then "" else "s")
  | .tooLong length => s!"invalid length {length}, expected fewer elements in array"

/-- Reads a typed value. -/
abbrev Decoder (α : Type) := Json → Except DecodeFault α

namespace Decode

def any : Decoder Json := .ok

def text : Decoder String
  | .string s => .ok s
  | v => .error (.form v "a string")

def flag : Decoder Bool
  | .bool b => .ok b
  | v => .error (.form v "a boolean")

/-- Null stands for no value. -/
def optional {α : Type} (decode : Decoder α) : Decoder (Option α)
  | .null => .ok none
  | v => (decode v).map some

def list {α : Type} (decode : Decoder α) : Decoder (List α)
  | .array items => items.mapM decode
  | v => .error (.form v "a sequence")

/-- A map whose keys are the object's. -/
def table {α : Type} (decode : Decoder α) : Decoder (OrderedMap α)
  | .object members => do
    let entries ← members.mapM fun member => (decode member.2).map fun value => (member.1, value)
    return .ofList entries
  | v => .error (.form v "a map")

/-- A field of a record that is put together in a value of type `σ`. -/
structure Field (σ : Type) where
  name : String
  /-- The field has to be given. -/
  isRequired : Bool
  read : Json → σ → Except DecodeFault σ

/-- A field with a default, which stands in the record from the start. -/
def Field.given {σ α : Type} (name : String) (decode : Decoder α) (set : α → σ → σ) : Field σ :=
  ⟨name, false, fun v state => (decode v).map (set · state)⟩

/-- A field without a default. -/
def Field.required {σ α : Type} (name : String) (decode : Decoder α) (set : α → σ → σ) : Field σ :=
  { Field.given name decode set with isRequired := true }

/-- Reads members in their order; those that are no field are passed over. -/
def members {σ : Type} (fields : List (Field σ)) (start : σ) (members : List (String × Json)) :
    Except DecodeFault σ :=
  members.foldlM (fun state member =>
    match fields.find? (·.name == member.1) with
    | some field => field.read member.2 state
    | none => .ok state) start

/-- Reads items as fields; the first `position` fields have been read. -/
def items {σ : Type} (record : String) (count position : Nat) (state : σ) :
    List (Field σ) → List Json → Except DecodeFault σ
  | [], rest => if rest.isEmpty then .ok state else .error (.tooLong (position + rest.length))
  | field :: fields, [] =>
    if field.isRequired then .error (.tooShort position record count)
    else items record count position state fields []
  | field :: fields, item :: rest => do
    items record count (position + 1) (← field.read item state) fields rest

/-- Reads a record from an object alone. -/
def object {σ : Type} (name : String) (fields : List (Field σ)) (start : σ) : Decoder σ
  | .object given => do
    let state ← members fields start given
    match fields.find? fun field => field.isRequired && !(Assoc.keys given).contains field.name with
    | some field => .error (.missing field.name)
    | none => .ok state
  | v => .error (.form v ("struct " ++ name))

/-- Reads a record from an object or an array. -/
def record {σ : Type} (name : String) (fields : List (Field σ)) (start : σ) : Decoder σ
  | .array given => items name fields.length 0 start fields given
  | v => object name fields start v

end Decode

end FieldRules.Json
