import FieldRules.Decimal.Binary64
import FieldRules.OrderedMap

/-!
TOML documents as they grow: tables whose members are values, tables, and lists of tables.

A table can be opened by a header of its own, be named on the way to another header's table, or come
from the dots in a key. Only the second kind can still get its header, and only the third can be
added to by keys with dots.
-/

namespace FieldRules.Toml

/-- A value. -/
inductive Value where
  | text (s : String)
  | whole (n : Int)
  | float (x : Double)
  | flag (b : Bool)
  /-- A date, a time of day, or both. -/
  | moment
  | array (items : List Value)
  | table (members : List (String × Value))
  deriving Inhabited

/-- How a table came to be. -/
inductive Origin where
  /-- A header of its own. -/
  | header
  /-- The way to another header's table. -/
  | way
  /-- The dots in a key. -/
  | dots
  deriving DecidableEq, Repr

/-- What a table holds under a key. -/
inductive Item where
  | value (v : Value)
  | table (origin : Origin) (members : List (String × Item))
  /-- Tables under one header in double brackets. -/
  | tables (earlier : List (List (String × Item))) (last : List (String × Item))
  deriving Inhabited

abbrev Table := List (String × Item)

namespace Table

/-- Adds a value under a key, which may have dots. Nothing is overwritten, and tables with a header
get no members through dots. -/
def add (v : Value) : List String → Table → Option Table
  | [], _ => none
  | [key], table =>
    if (Assoc.find? table key).isSome then none else some (table ++ [(key, .value v)])
  | key :: rest, table =>
    match Assoc.find? table key with
    | none => (add v rest []).map fun inner => table ++ [(key, .table .dots inner)]
    | some (.table .dots inner) =>
      (add v rest inner).map fun inner => Assoc.put table key (.table .dots inner)
    | some (.table .way inner) =>
      if rest.length = 1 then none
      else (add v rest inner).map fun inner => Assoc.put table key (.table .way inner)
    | some (.tables earlier last) =>
      if rest.length = 1 then none
      else (add v rest last).map fun last => Assoc.put table key (.tables earlier last)
    | some (.table .header _) | some (.value _) => none

/-- Rewrites the table that keys lead to. Tables that are missing on the way are made, and of
several tables the last one counts. -/
def alter (f : Table → Option Table) : List String → Table → Option Table
  | [], table => f table
  | key :: rest, table =>
    match Assoc.find? table key with
    | none => (alter f rest []).map fun inner => table ++ [(key, .table .way inner)]
    | some (.table origin inner) =>
      (alter f rest inner).map fun inner => Assoc.put table key (.table origin inner)
    | some (.tables earlier last) =>
      (alter f rest last).map fun last => Assoc.put table key (.tables earlier last)
    | some (.value _) => none

/-- Opens the table of a header, which has none yet. -/
def openTable (key : String) (table : Table) : Option Table :=
  match Assoc.find? table key with
  | none => some (table ++ [(key, .table .header [])])
  | some (.table .way inner) => some (Assoc.put table key (.table .header inner))
  | some _ => none

/-- Opens another table of a header in double brackets. -/
def openNext (key : String) (table : Table) : Option Table :=
  match Assoc.find? table key with
  | none => some (table ++ [(key, .tables [] [])])
  | some (.tables earlier last) => some (Assoc.put table key (.tables (earlier ++ [last]) []))
  | some _ => none

end Table

mutual

/-- The value that an item of a complete document stands for. -/
def Item.toValue : Item → Value
  | .value v => v
  | .table _ members => .table (membersToValues members)
  | .tables earlier last => .array (tablesToValues earlier ++ [.table (membersToValues last)])

def membersToValues : List (String × Item) → List (String × Value)
  | [] => []
  | (key, item) :: rest => (key, item.toValue) :: membersToValues rest

def tablesToValues : List (List (String × Item)) → List Value
  | [] => []
  | members :: rest => .table (membersToValues members) :: tablesToValues rest

end

end FieldRules.Toml
