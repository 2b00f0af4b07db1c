import FieldRules.Configuration.Entry
import FieldRules.Report.Template
import FieldRules.Settings

/-!
The configuration of the command line: settings of the engines, of the output and of the log.
-/

namespace FieldRules

namespace Configuration

/-- How results are shown. -/
structure Display where
  color : Bool := true
  /-- The template of the lines of a report. -/
  template : String := Template.standard
  /-- Joins the lines of a report into one. -/
  join : Option String := none
  deriving DecidableEq, Repr, Inhabited

/-- What a file says about the log. -/
structure LogSection where
  level : Option String := none
  format : Option String := none
  deriving DecidableEq, Repr, Inhabited

end Configuration

/-- A configuration. -/
structure Configuration where
  engine : Settings := {}
  display : Configuration.Display := {}
  log : Configuration.LogSection := {}
  deriving DecidableEq, Repr, Inhabited

namespace Configuration

open Entry in
def settings? : Entry → Option Settings :=
  table? [
    .of "separator" text? fun s settings => { settings with separator := s },
    .of "id_key" (optional? text?) fun s settings => { settings with idKey := s },
    .of "locale" text? fun s settings => { settings with locale := s },
    .of "parallel_rows" flag? fun b settings => { settings with parallelRows := b }] {}

open Entry in
def display? : Entry → Option Display :=
  table? [
    .of "color" flag? fun b display => { display with color := b },
    .of "template" text? fun s display => { display with template := s },
    .of "join" (optional? text?) fun s display => { display with join := s }] {}

open Entry in
def logSection? : Entry → Option LogSection :=
  table? [
    .of "level" (optional? text?) fun s log => { log with level := s },
    .of "format" (optional? text?) fun s log => { log with format := s }] {}

open Entry in
/-- The configuration that a file's content stands for. -/
def ofEntry? : Entry → Option Configuration :=
  table? [
    .of "engine" settings? fun s configuration => { configuration with engine := s },
    .of "output" display? fun s configuration => { configuration with display := s },
    .of "logging" logSection? fun s configuration => { configuration with log := s }] {}

open Settings (textOrNull) in
def toJson (configuration : Configuration) : Json := .object [
  ("engine", configuration.engine.toJson),
  ("output", .object [
    ("color", .bool configuration.display.color),
    ("template", .string configuration.display.template),
    ("join", textOrNull configuration.display.join)]),
  ("logging", .object [
    ("level", textOrNull configuration.log.level),
    ("format", textOrNull configuration.log.format)])]

/-- Settings of the engines that the command line gives. They go before those of a configuration. -/
structure Overrides where
  separator : Option String := none
  idKey : Option String := none
  locale : Option String := none
  deriving DecidableEq, Repr, Inhabited

/-- The settings of an engine. -/
def settings (configuration : Configuration) (overrides : Overrides) : Settings :=
  { configuration.engine with
    separator := overrides.separator.getD configuration.engine.separator
    idKey := overrides.idKey.or configuration.engine.idKey
    locale := overrides.locale.getD configuration.engine.locale }

end Configuration

end FieldRules
