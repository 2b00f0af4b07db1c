import FieldRules.Json.Basic
import FieldRules.Toml.Basic
import FieldRules.Yaml.Value

/-!
Values in configuration files, whatever the format.

An entry tells of a value what a field can take it for. A YAML scalar without quotes, for one, is a
text to a field that wants a text, and a truth value to one that wants that.
-/

namespace FieldRules.Configuration

/-- What a field can take a scalar for. -/
structure Scalar where
  text : Option String := none
  flag : Option Bool := none
  /-- Where a value may be missing, this one is. -/
  isNull : Bool := false
  /-- Where a table is wanted, this is one without members. -/
  isBlank : Bool := false
  deriving DecidableEq, Repr

/-- A value in a configuration file. -/
inductive Entry where
  | scalar (s : Scalar)
  /-- Items stand for the fields of a table in their order. A closed list has no more items than
  fields. -/
  | list (closed : Bool) (items : List Entry)
  /-- Members in their order; a key may be repeated. -/
  | table (members : List (String × Entry))
  /-- A value that no field can take. -/
  | other
  deriving Inhabited

namespace Entry

def text? : Entry → Option String
  | .scalar s => s.text
  | _ => none

def flag? : Entry → Option Bool
  | .scalar s => s.flag
  | _ => none

/-- A value that may be missing. -/
def optional? {α : Type} (read : Entry → Option α) (entry : Entry) : Option (Option α) :=
  match entry with
  | .scalar ⟨_, _, true, _⟩ => some none
  | entry => (read entry).map some

/-- A field of a table that is put together in a value of type `σ`. -/
structure Field (σ : Type) where
  name : String
  read : Entry → σ → Option σ

/-- A field that is given by what `read` makes of its value. -/
def Field.of {σ α : Type} (name : String) (read : Entry → Option α) (set : α → σ → σ) : Field σ :=
  ⟨name, fun entry state => (read entry).map (set · state)⟩

/-- No field's key is repeated. -/
def unambiguous {σ : Type} (fields : List (Field σ)) (members : List (String × Entry)) : Bool :=
  fields.all fun field => members.countP (·.1 == field.name) ≤ 1

/-- Reads a table over the defaults that the fields have in `start`. Members that are no field are
passed over. -/
def table? {σ : Type} (fields : List (Field σ)) (start : σ) : Entry → Option σ
  | .table members =>
    if unambiguous fields members then
      members.foldlM (fun state member =>
        match fields.find? (·.name == member.1) with
        | some field => field.read member.2 state
        | none => some state) start
    else none
  | .list closed items =>
    if closed && fields.length < items.length then none
    else (fields.zip items).foldlM (fun state pair => pair.1.read pair.2 state) start
  | .scalar s => if s.isBlank then some start else none
  | .other => none

mutual

/-- The entry for a JSON value. -/
def ofJson : Json → Entry
  | .null => .scalar { isNull := true }
  | .bool b => .scalar { flag := some b }
  | .number _ => .scalar {}
  | .string s => .scalar { text := some s }
  | .array items => .list true (ofItems items)
  | .object members => .table (ofMembers members)

def ofItems : List Json → List Entry
  | [] => []
  | item :: rest => ofJson item :: ofItems rest

def ofMembers : List (String × Json) → List (String × Entry)
  | [] => []
  | (key, v) :: rest => (key, ofJson v) :: ofMembers rest

end

mutual

/-- The entry for a TOML value. Dates and times are tables of which no field is wanted. -/
def ofToml : Toml.Value → Entry
  | .text s => .scalar { text := some s }
  | .flag b => .scalar { flag := some b }
  | .whole _ | .float _ => .scalar {}
  | .moment => .table []
  | .array items => .list false (ofTomlItems items)
  | .table members => .table (ofTomlMembers members)

def ofTomlItems : List Toml.Value → List Entry
  | [] => []
  | item :: rest => ofToml item :: ofTomlItems rest

def ofTomlMembers : List (String × Toml.Value) → List (String × Entry)
  | [] => []
  | (key, v) :: rest => (key, ofToml v) :: ofTomlMembers rest

end

open Yaml (Node ScalarStyle Look) in
/-- The entry for a YAML scalar. -/
def ofYamlScalar (tag : Option String) (style : ScalarStyle) (text : String) : Scalar where
  text := some text
  flag :=
    if style = .plain ∨ (style = .block ∧ tag = some "tag:yaml.org,2002:bool") then Look.truth? text
    else none
  isNull :=
    style = .plain &&
      (match tag with
        | none => text.isEmpty || Look.isNull text
        | some tag => tag == "tag:yaml.org,2002:null" && Look.isNull text)
  isBlank := style = .plain && text.isEmpty

/-- The node itself, or the one that an alias refers to. -/
def target (anchored : List (Nat × Yaml.Node)) : Yaml.Node → Option Yaml.Node
  | .alias number => anchored.reverse.lookup number
  | node => some node

/-- The entry for a YAML node, with tables in at most `depth` levels. The keys are scalars. -/
def ofYaml (anchored : List (Nat × Yaml.Node)) (depth : Nat) (node : Yaml.Node) : Entry :=
  match depth, target anchored node with
  | _, some (.scalar _ tag style text) => .scalar (ofYamlScalar tag style text)
  | depth + 1, some (.mapping _ _ pairs) =>
    let members := pairs.mapM fun pair =>
      match target anchored pair.1 with
      | some (.scalar _ _ _ text) => some (text, ofYaml anchored depth pair.2)
      | _ => none
    match members with
    | some members => .table members
    | none => .other
  | _, _ => .other

end Entry

end FieldRules.Configuration
