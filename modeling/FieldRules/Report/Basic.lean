import FieldRules.Report.Template
import Std.Data.HashMap

/-!
Reports: records in the order in which they were filed.

An index tells for each row and target where the last record filed under them stands. `push` uses it
to overwrite that record; `append` files a record at the end in any case.
-/

namespace FieldRules

/-- Records in order, with an index of the last one under each key. -/
structure Report where
  /-- The locale in which messages are recorded. -/
  locale : String := "en"
  records : Array Record := #[]
  latest : Std.HashMap (Option String × String) Nat := {}

namespace Report

instance : Inhabited Report := ⟨{}⟩

def size (report : Report) : Nat := report.records.size

def isEmpty (report : Report) : Bool := report.records.isEmpty

def hasErrors (report : Report) : Bool := !report.isEmpty

/-- Files a record behind all others. -/
def append (report : Report) (r : Record) : Report :=
  { report with
    records := report.records.push r
    latest := report.latest.insert r.key report.records.size }

/-- Overwrites the last record of the same row and target; files the record at the end if there is
none. -/
def push (report : Report) (r : Record) : Report :=
  match report.latest[r.key]? with
  | some position => { report with records := report.records.setIfInBounds position r }
  | none => report.append r

/-- Files all records of another report behind the own ones. -/
def appendAll (report other : Report) : Report := other.records.foldl append report

/-- Pushes all records of another report. -/
def merge (report other : Report) : Report := other.records.foldl push report

/-- The record of a fault with a message in the report's locale. -/
def record (report : Report) (validator target message : String) (value : Json)
    (rowId : Option Json) : Record :=
  Record.withMessage { target, validator, value, rowId } report.locale message

/-- Pushes the record of a fault. -/
def addError (report : Report) (validator target message : String) (value : Json)
    (rowId : Option Json := none) : Report :=
  report.push (report.record validator target message value rowId)

/-- The records of one row. Identities are compared as values. -/
def forRow (report : Report) (rowId : Json) : Report :=
  (report.records.filter fun r => r.rowId.any (·.sameValue rowId)).foldl append
    { locale := report.locale }

/-- The records that have a message in a locale, in the words of a template. -/
def render (report : Report) (locale template : String) : List String :=
  report.records.toList.filterMap (·.render? locale template)

/-- The rendered records joined; `none` if nothing renders. -/
def collapse? (report : Report) (locale template : String) (join : Option String := none) :
    Option String :=
  match report.render locale template with
  | [] => none
  | lines => some ((join.getD ",").intercalate lines)

def toJson (report : Report) : Json := .array (report.records.toList.map Record.toJson)

/-- The reports hold the same records in the same locale and have the same index. -/
def sameAs (a b : Report) : Bool :=
  a.locale == b.locale && a.records == b.records
    && a.latest.size == b.latest.size
    && a.latest.toList.all fun entry => b.latest[entry.1]? == some entry.2

end Report

end FieldRules
