import FieldRules.Command.Configure
import FieldRules.Command.Flat
import FieldRules.Command.Output
import FieldRules.Document.Load
import FieldRules.Engine.Transform
import FieldRules.Engine.Validation
import FieldRules.Operator.Builtin
import FieldRules.Validator.Builtin

/-!
The commands: checking data, rewriting it, and turning it into its flat form and back.
-/

namespace FieldRules.Command

open Document (Format Loader)

/-- Stands for the path of what comes from the standard input. -/
def inputPath : String := "<stdin>"

/-- Reads a document. Its format is that of its extension; without one it is guessed. -/
def readDocument (path : String) : Job Json := do
  if Disk.Path.isInput path then
    let (v, _) ← Job.ofExcept .load (Document.guess inputPath (← Job.input))
    return v
  Job.require path
  match Format.ofPath? path with
  | some _ => Job.ofExcept .load (← ExceptT.lift (Document.readFile path))
  | none =>
    let (v, _) ← Job.ofExcept .load (Document.guess path (← Job.read path))
    return v

/-- The loader for a dialect's tag; without one documents tell their dialect. -/
def loader (tag : Option String) : Except Failure Loader :=
  match tag with
  | none => .ok {}
  | some tag =>
    match Dialect.parse tag with
    | .ok dialect => .ok { dialect := some dialect }
    | .error fault => .error (.arguments ("--schema-version: " ++ fault.message))

/-- Reads a schema. -/
def readSchema (options : EngineOptions) : Job Schema := do
  Job.require options.schema
  let loader ← Job.ofExcept id (loader options.schemaVersion)
  Job.ofExcept .load (← ExceptT.lift (loader.loadFile options.schema))

/-- Writes a document to a file, in the format of its extension or else as JSON. -/
def writeDocument (path : String) (v : Json) : Job Unit :=
  match Format.ofPath? path with
  | some .yaml => Job.save path (Format.write .yaml v)
  | _ => Job.save path (Format.write .json v ++ "\n")

/-- What a command needs to know besides its arguments. -/
structure Context where
  style : OutputStyle
  configuration : Configuration := {}
  /-- The present, for checks that compare with it. -/
  now : Calendar.Instant

namespace Context

/-- How reports are put into words; what the call says goes before the configuration. -/
def reportStyle (context : Context) (settings : Settings) (template join : Option String) :
    ReportStyle where
  locale := settings.locale
  template := template.getD context.configuration.display.template
  join := join.or context.configuration.display.join

/-- Finds out what is wrong with data. -/
def check (context : Context) (data : String) (options : EngineOptions) : Job Report := do
  let schema ← readSchema options
  let v ← readDocument data
  let settings := context.configuration.settings options.overrides
  let engine ← Job.ofExcept .engine
    (Engine.Validation.ofSchema schema (Validator.builtin context.now) settings)
  Job.ofExcept .engine (engine.validate v).result

/-- Reports what is wrong with data. Without faults people get no report. -/
def validate (context : Context) (data : String) (options : EngineOptions)
    (template join : Option String) : Job Unit := do
  let style := context.style
  style.info ("Validating " ++ data ++ " against " ++ options.schema)
  let report ← context.check data options
  let words :=
    context.reportStyle (context.configuration.settings options.overrides) template join
  if report.isEmpty then
    style.success "✓ Data is valid"
    if style.format != .human then style.report words report
  else
    style.error s!"✗ {report.size} validation error(s)"
    style.report words report
    throw (.refused report.size)

/-- Rewrites data, and writes it out or to a file. -/
def operate (context : Context) (data : String) (options : EngineOptions) (saveTo : Option String) :
    Job Unit := do
  let schema ← readSchema options
  let v ← readDocument data
  let settings := context.configuration.settings options.overrides
  let engine ← Job.ofExcept .engine (Engine.Transform.ofSchema schema Operator.builtin settings)
  let rewritten ← Job.ofExcept .engine (engine.operate v).result
  match saveTo with
  | some path =>
    writeDocument path rewritten
    context.style.success ("✓ Saved transformed data to " ++ path)
  | none => context.style.document rewritten

/-- The separator of paths, which is not empty. -/
def separator (context : Context) (given : Option String) : Except Failure String :=
  let separator := given.getD context.configuration.engine.separator
  if separator.isEmpty then .error (.arguments "separator must not be empty") else .ok separator

/-- Writes the flat form of a document. -/
def flatten (context : Context) (data : String) (given : Option String) : Job Unit := do
  let separator ← Job.ofExcept id (context.separator given)
  context.style.document (flatDocument separator (← readDocument data))

/-- Writes the document of a flat form. -/
def deflate (context : Context) (flat : String) (given : Option String) : Job Unit := do
  let separator ← Job.ofExcept id (context.separator given)
  let fail : FlatFault → Failure
    | .form => .wrongContent flat "a flat object or an array of flat objects"
    | .engine error => .engine error
  context.style.document (← Job.ofExcept fail (nestedDocument separator (← readDocument flat)))

/-- Carries out an action. Completions are not among what is carried out here. -/
def perform (context : Context) : Action → Job Unit
  | .validate data options template join => context.validate data options template join
  | .operate data options saveTo => context.operate data options saveTo
  | .flatten data separator => context.flatten data separator
  | .deflate flat separator => context.deflate flat separator
  | .completions _ => return ()

end Context

/-- How a call ends. -/
structure Outcome where
  failure : Option Failure
  /-- The failure is shown in colour. -/
  color : Bool

def Outcome.exitCode (outcome : Outcome) : Nat := (outcome.failure.map Failure.exitCode).getD 0

/-- What surrounds a call. -/
structure Surroundings where
  /-- The directory where programs keep their configurations. -/
  home : Option String := none
  /-- The output can show colours. -/
  color : Bool := false
  now : Calendar.Instant

/-- A call: the configuration is read, and then the action is carried out. -/
def Invocation.plan (invocation : Invocation) (surroundings : Surroundings) : Plan Outcome := do
  let color := invocation.usesColor surroundings.color
  match ← ExceptT.run (Configuration.load invocation.configuration surroundings.home) with
  | .error failure => return ⟨some failure, color⟩
  | .ok configuration =>
    let color := color && configuration.display.color
    let context : Context := {
      style := { format := invocation.output, color, quiet := invocation.quiet }
      configuration
      now := surroundings.now }
    match ← ExceptT.run (context.perform invocation.action) with
    | .error failure => return ⟨some failure, color⟩
    | .ok () => return ⟨none, color⟩

end FieldRules.Command
