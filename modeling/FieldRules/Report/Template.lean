import FieldRules.Report.Record

/-!
Templates: texts with places for the parts of a record.

A template is split into placeholders and characters once, whatever the record; what is put into a
place is never looked at for placeholders again.
-/

namespace FieldRules.Template

/-- The parts of a record that a template can name. -/
inductive Placeholder where
  | validator | message | target | value | data | id
  deriving DecidableEq, Repr

namespace Placeholder

def all : List Placeholder := [.validator, .message, .target, .value, .data, .id]

def name : Placeholder → String
  | .validator => "validator"
  | .message => "message"
  | .target => "target"
  | .value => "value"
  | .data => "data"
  | .id => "id"

/-- The placeholder whose name starts a text. -/
def atStart? (s : List Char) : Option Placeholder :=
  all.find? fun placeholder => placeholder.name.toList.isPrefixOf s

end Placeholder

/-- A part of a template. -/
inductive Part where
  | literal (c : Char)
  | place (placeholder : Placeholder)
  deriving DecidableEq, Repr

/-- The parts of a template; `skip` characters belong to the placeholder before. A `%` without the
name of a placeholder behind it stands for itself. -/
def partsFrom (skip : Nat) : List Char → List Part
  | [] => []
  | c :: rest =>
    match skip with
    | skip + 1 => partsFrom skip rest
    | 0 =>
      match (if c = '%' then Placeholder.atStart? rest else none) with
      | some placeholder => .place placeholder :: partsFrom placeholder.name.toList.length rest
      | none => .literal c :: partsFrom 0 rest

def parts (template : String) : List Part := partsFrom 0 template.toList

/-- The text for a placeholder. Texts stand bare, all other values as JSON. -/
def fill (r : Record) (message : String) : Placeholder → String
  | .validator => r.validator
  | .message => message
  | .target => r.target
  | .value => r.value.bareText
  | .data =>
    match r.context with
    | some context => (Json.ofMap context).compact
    | none => "\x7b\x7d"
  | .id =>
    match r.rowId with
    | some id => id.bareText
    | none => ""

def Part.text (r : Record) (message : String) : Part → String
  | .literal c => String.singleton c
  | .place placeholder => fill r message placeholder

/-- The template that is used where none is given. -/
def standard : String :=
  "validation error %message for %target with validation on %validator, provided: %value"

end Template

/-- The record in the words of a template; `none` without a message in the locale. -/
def Record.render? (r : Record) (locale template : String) : Option String :=
  (r.message? locale).map fun message =>
    String.join ((Template.parts template).map (·.text r message))

end FieldRules
