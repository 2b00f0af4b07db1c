import FieldRules.Engine.Rule
import FieldRules.Report.Basic
import FieldRules.Settings

/-!
Validation: running the rules of a schema over documents and rows.

Each rule contributes a block of records. Where its pattern addresses nothing the block says that
the field is required, if it is; where a dependency is missing it says so; otherwise each addressed
value is given to the rule's validators in turn until one refuses it.
-/

namespace FieldRules.Engine

/-- A rule whose validators have been looked up. -/
structure ValidationRule where
  compiled : CompiledRule
  chain : List (Step ValidatorSpec Validator)

/-- A schema that is ready to check data. -/
structure Validation where
  rules : List ValidationRule
  settings : Settings

namespace Validation

/-- Makes a schema ready. The first fault counts: of the settings, then rule by rule of the patterns
and of the names. -/
def ofSchema (schema : Schema) (registry : Registry Validator) (settings : Settings) :
    Except Error Validation := do
  settings.check
  let rules ← schema.rules.mapM fun rule => do
    let compiled ← CompiledRule.compile rule settings.separator
    let chain ← resolve .validator registry rule.target (·.name) compiled.rule.validators
    return ⟨compiled, chain⟩
  return ⟨rules, settings⟩

/-- The first refusal of a value by a chain of validators. Those behind it are not called. -/
def firstRefusal (value : Json) :
    List (Step ValidatorSpec Validator) → Traced (Option (ValidatorSpec × Complaint))
  | [] => ⟨[], none⟩
  | step :: rest =>
    let call : Call := ⟨step.spec.name, value⟩
    match step.function value step.spec.attributes with
    | .error complaint => ⟨[call], some (step.spec, complaint)⟩
    | .ok () =>
      let others := firstRefusal value rest
      ⟨call :: others.calls, others.result⟩

/-- The messages of a refusal. In the active locale the first of these counts: the localized message
of the validator's use, that of the rule, the text given with the use, and the function's own. The
other locales of the use and of the rule are taken along. -/
def messages (locale : String) (spec : ValidatorSpec) (rule : FieldRule) (complaint : Complaint) :
    Localized :=
  let active := ((spec.localized.get? locale).or (rule.localized.get? locale)).or spec.error
  (spec.localized.entries ++ rule.localized.entries).foldl
    (fun acc entry => acc.insertIfNew entry.1 entry.2)
    (OrderedMap.empty.insert locale (active.getD complaint))

/-- The records for one addressed value: one if it is refused, and none otherwise. -/
def valueRecords (locale : String) (rule : ValidationRule) (path : String) (value : Json) :
    Traced (List Record) :=
  let refusal := firstRefusal value rule.chain
  ⟨refusal.calls, match refusal.result with
    | none => []
    | some (spec, complaint) => [{
        target := path
        validator := spec.name
        value := value
        messages := messages locale spec rule.compiled.rule complaint }]⟩

/-- The record of a required field that is not there. -/
def requiredRecord (locale target : String) : Record :=
  ({ target := target, validator := "is-required", value := .null } : Record).withMessage locale
    "this field is required"

/-- The record of a dependency that is not there. -/
def dependencyRecord (locale target missing : String) : Record :=
  { ({ target := target, validator := "depends-on", value := .null } : Record).withMessage locale
      "this field depends on other values which do not exist" with
    context := some (OrderedMap.empty.insert "missing" (.string missing)) }

/-- The records that a rule contributes for a view. -/
def block (locale : String) (view : FlatView) (rule : ValidationRule) : Traced (List Record) :=
  let matched := (view.findMatches rule.compiled.pattern).entries
  let target := rule.compiled.rule.target
  if matched.isEmpty then
    ⟨[], if rule.compiled.rule.required then [requiredRecord locale target] else []⟩
  else
    match rule.compiled.missingDependency? view with
    | some missing => ⟨[], [dependencyRecord locale target missing.text]⟩
    | none =>
      let parts := matched.map fun entry => valueRecords locale rule entry.1 entry.2
      ⟨parts.flatMap (·.calls), parts.flatMap (·.result)⟩

/-- The records of all rules for a view, filed under a row if one is given. -/
def viewRecords (engine : Validation) (view : FlatView) (rowId : Option Json) :
    Traced (List Record) :=
  let blocks := engine.rules.map (block engine.settings.locale view)
  ⟨blocks.flatMap (·.calls), (blocks.flatMap (·.result)).map (·.tagged rowId)⟩

/-- What identifies a row: the value at the configured path, or else its position. -/
def rowId (engine : Validation) (view : FlatView) (position : Nat) : Json :=
  (engine.settings.idKey.bind view.get?).getD (.string s!"row-{position}")

/-- Files records in a new report. -/
def report (engine : Validation) (found : Traced (List Record)) : Traced Report :=
  ⟨found.calls, found.result.foldl Report.append { locale := engine.settings.locale }⟩

/-- The report of a row at a position. -/
def rowReport (engine : Validation) (position : Nat) (row : Json) : Traced Report :=
  let view := row.flatten engine.settings.separator
  engine.report (engine.viewRecords view (some (engine.rowId view position)))

/-- Checks one object. -/
def validateObject (engine : Validation) (data : Json) (rowId : Option Json := none) :
    Traced (Except Error Report) :=
  match data with
  | .object _ =>
    .ok (engine.report (engine.viewRecords (data.flatten engine.settings.separator) rowId))
  | data => .refused (.invalidShape data.kind)

/-- Checks rows, which all have to be objects. That is seen to before any of them is checked. -/
def validateRows (engine : Validation) (rows : List Json) : Traced (Except Error Report) :=
  match misshapenRow? rows with
  | some row => .refused (.invalidShape row.kind)
  | none =>
    let reports := rows.mapIdx engine.rowReport
    .ok ⟨reports.flatMap (·.calls),
      (reports.map (·.result)).foldl Report.appendAll { locale := engine.settings.locale }⟩

/-- Checks an object or a list of rows. -/
def validate (engine : Validation) (data : Json) : Traced (Except Error Report) :=
  match data with
  | .array rows => engine.validateRows rows
  | data => engine.validateObject data

end Validation

end FieldRules.Engine
