import FieldRules.Command.Options
import FieldRules.Configuration.Basic

/-!
The command line of the program: its options and subcommands, and what a call of it asks for.
-/

namespace FieldRules.Command

/-- The form in which results are written. -/
inductive OutputFormat where
  | human | json | yaml | jsonPretty
  deriving DecidableEq, Repr, Inhabited

namespace OutputFormat

def all : List OutputFormat := [.human, .json, .yaml, .jsonPretty]

def name : OutputFormat → String
  | .human => "human"
  | .json => "json"
  | .yaml => "yaml"
  | .jsonPretty => "json-pretty"

def ofName? (name : String) : Option OutputFormat := all.find? (·.name == name)

end OutputFormat

/-- What the commands that run an engine are given. -/
structure EngineOptions where
  schema : String
  /-- The tag of the dialect in which the schema is read, instead of its own. -/
  schemaVersion : Option String := none
  overrides : Configuration.Overrides := {}
  deriving DecidableEq, Repr, Inhabited

/-- What is to be done. -/
inductive Action where
  | validate (data : String) (engine : EngineOptions) (template join : Option String)
  | operate (data : String) (engine : EngineOptions) (saveTo : Option String)
  | flatten (data : String) (separator : Option String)
  | deflate (flat : String) (separator : Option String)
  /-- Completions of command lines for a shell. -/
  | completions (shell : String)
  deriving DecidableEq, Repr, Inhabited

/-- A call of the program. -/
structure Invocation where
  /-- How often more output has been asked for. -/
  verbose : Nat := 0
  quiet : Bool := false
  configuration : Option String := none
  output : OutputFormat := .human
  noColor : Bool := false
  action : Action
  deriving DecidableEq, Repr, Inhabited

namespace Invocation

/-- Quiet calls have no verbosity. -/
def verbosity (invocation : Invocation) : Nat := if invocation.quiet then 0 else invocation.verbose

/-- Colours are used if the output can show them and nothing speaks against it. -/
def usesColor (invocation : Invocation) (color : Bool) : Bool := color && !invocation.noColor

/-- The options that can be given before and behind a subcommand. -/
def globalOptions : List OptionSpec := [
  ⟨"verbose", some 'v', .counter⟩,
  ⟨"quiet", some 'q', .switch⟩,
  ⟨"config", some 'c', .setting .path⟩,
  ⟨"output", some 'o', .setting (.choice (OutputFormat.all.map OutputFormat.name))⟩,
  ⟨"no-color", none, .switch⟩,
  ⟨"help", some 'h', .help⟩,
  ⟨"version", some 'V', .version⟩]

def engineOptions : List OptionSpec := [
  ⟨"schema", some 's', .setting .path⟩,
  ⟨"schema-version", none, .setting .text⟩,
  ⟨"separator", none, .setting .text⟩,
  ⟨"id-key", none, .setting .text⟩,
  ⟨"locale", none, .setting .text⟩]

/-- The words before a subcommand. -/
def rootGrammar : Grammar where
  options := globalOptions
  subcommands := ["validate", "operate", "flatten", "deflate", "completions"]

/-- The words behind a subcommand. -/
def subcommandGrammar (name : String) : Grammar :=
  match name with
  | "validate" =>
    { options := globalOptions ++ engineOptions
        ++ [⟨"template", none, .setting .text⟩, ⟨"join", none, .setting .text⟩]
      operand := some .path }
  | "operate" =>
    { options := globalOptions ++ engineOptions ++ [⟨"save-to", none, .setting .path⟩]
      operand := some .path }
  | "completions" =>
    { options := globalOptions
      operand := some (.choice ["bash", "zsh", "fish", "power-shell", "elvish"]) }
  | _ =>
    { options := globalOptions ++ [⟨"separator", none, .setting .text⟩]
      operand := some .path }

/-- A setting of the environment stands for the option that names a configuration. -/
def checkEnvironment (given : Given) (environment : Option String) : Except UsageFault Unit :=
  if (given.value? "config").isNone && environment == some "" then .error .badValue else .ok ()

/-- Quiet calls cannot ask for more output. This is checked before and behind the subcommand. -/
def checkConflicts (given : Given) : Except UsageFault Unit :=
  if given.has "quiet" && given.count "verbose" != 0 then .error .conflict else .ok ()

def engineOf (given : Given) : Except UsageFault EngineOptions :=
  match given.value? "schema" with
  | none => .error .missingArgument
  | some schema => .ok {
      schema
      schemaVersion := given.value? "schema-version"
      overrides := {
        separator := given.value? "separator"
        idKey := given.value? "id-key"
        locale := given.value? "locale" } }

/-- The action of a subcommand, whose operand has to be there. -/
def actionOf (name : String) (given : Given) : Except UsageFault Action := do
  match given.value? operandName with
  | none => throw .missingArgument
  | some operand =>
    match name with
    | "validate" =>
      return .validate operand (← engineOf given) (given.value? "template") (given.value? "join")
    | "operate" => return .operate operand (← engineOf given) (given.value? "save-to")
    | "completions" => return .completions operand
    | "deflate" => return .deflate operand (given.value? "separator")
    | _ => return .flatten operand (given.value? "separator")

/-- Reads the words behind a subcommand. -/
def readSubcommand (environment : Option String) (name : String) (words : List String) :
    Except UsageFault (Given × Action) := do
  let grammar := subcommandGrammar name
  let (given, _) ← ({} : Given).giveWords grammar false words
  let given ← given.settle
  checkEnvironment given environment
  checkConflicts given
  return (given, ← actionOf name given)

/-- Help on the program or on a subcommand. -/
def helpFault (words : List String) : UsageFault :=
  match words with
  | [] => .helpWanted
  | [word] => if rootGrammar.isSubcommand word then .helpWanted else .unknownSubcommand
  | _ => .unknownSubcommand

/-- Reads a command line. `environment` names a configuration where no option does. What stands
behind a subcommand goes before what stands in front of it. -/
def read (environment : Option String) (words : List String) : Except UsageFault Invocation := do
  let (outer, rest) ← ({} : Given).giveWords rootGrammar false words
  match rest with
  | none =>
    let outer ← outer.settle
    checkEnvironment outer environment
    throw (if outer.isEmpty && environment.isNone then .nothingGiven else .missingSubcommand)
  | some ("help", words) => throw (helpFault words)
  | some (name, words) =>
    let (inner, action) ← readSubcommand environment name words
    let outer ← outer.settle
    checkEnvironment outer environment
    checkConflicts outer
    let value (name : String) : Option String := (inner.value? name).or (outer.value? name)
    let verbose :=
      if inner.count "verbose" = 0 then outer.count "verbose" else inner.count "verbose"
    return {
      verbose
      quiet := inner.has "quiet" || outer.has "quiet"
      configuration := (value "config").or environment
      output := ((value "output").bind OutputFormat.ofName?).getD .human
      noColor := inner.has "no-color" || outer.has "no-color"
      action }

end Invocation

end FieldRules.Command
