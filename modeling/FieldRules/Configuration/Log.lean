import FieldRules.Configuration.Basic
import FieldRules.Text.Case

/-!
Settings of the log, from the verbosity of a call, a configuration and the environment, in this
order.
-/

namespace FieldRules

/-- The form of the lines of a log. -/
inductive LogFormat where
  | compact | full | json
  deriving DecidableEq, Repr

namespace LogFormat

def name : LogFormat → String
  | .compact => "compact"
  | .full => "full"
  | .json => "json"

/-- The format of a name, in any case. -/
def ofName? (name : String) : Option LogFormat :=
  [LogFormat.compact, .full, .json].find? fun format => format.name == Text.toLower name

end LogFormat

/-- What is logged, and how. -/
structure LogSettings where
  level : String := "warn"
  format : LogFormat := .compact
  /-- Colours on a terminal. -/
  console : Bool := true
  threadIds : Bool := false
  sourceLocation : Bool := false
  spanEvents : Bool := false
  deriving DecidableEq, Repr, Inhabited

namespace LogSettings

/-- The settings for a verbosity. -/
def ofVerbosity : Nat → LogSettings
  | 0 => {}
  | 1 => { level := "info" }
  | 2 => { level := "debug", sourceLocation := true }
  | _ => {
    level := "trace"
    format := .full
    threadIds := true
    sourceLocation := true
    spanEvents := true }

/-- The settings with a format of this name; a name that is none changes nothing. -/
def withFormat (log : LogSettings) (name : Option String) : LogSettings :=
  { log with format := (name.bind LogFormat.ofName?).getD log.format }

/-- The settings with those of a configuration. Its level counts only without verbosity. -/
def withSection (log : LogSettings) (given : Configuration.LogSection) (verbosity : Nat) :
    LogSettings :=
  { log.withFormat given.format with
    level := if verbosity = 0 then given.level.getD log.level else log.level }

/-- The variables of the environment that say something about the log. -/
structure Environment where
  level : Option String := none
  format : Option String := none
  console : Option String := none
  deriving DecidableEq, Repr, Inhabited

/-- The settings with those of the environment. -/
def withEnvironment (log : LogSettings) (environment : Environment) : LogSettings :=
  { log.withFormat environment.format with
    level := environment.level.getD log.level
    console :=
      match environment.console with
      | some s => Text.toLower s == "true" || s == "1"
      | none => log.console }

end LogSettings

end FieldRules
