import FieldRules.Engine.Rule
import FieldRules.Flat.Deflate
import FieldRules.Settings

/-!
Transformation: rewriting the values of documents and rows by the operators of a schema.
-/

namespace FieldRules.Engine

/-- A rule whose operators have been looked up. -/
structure TransformRule where
  compiled : CompiledRule
  chain : List (Step OperatorSpec Operator)

/-- A schema that is ready to rewrite data. -/
structure Transform where
  rules : List TransformRule
  settings : Settings

/-- A view after some rules, and the failure that kept the others from running. -/
structure Rewritten where
  view : FlatView
  failure : Option Error := none

namespace Transform

/-- Makes the rules of a schema ready that have operators. -/
def ofSchema (schema : Schema) (registry : Registry Operator) (settings : Settings) :
    Except Error Transform := do
  settings.check
  let rules ← (schema.rules.filter fun rule => !rule.operators.isEmpty).mapM fun rule => do
    let compiled ← CompiledRule.compile rule settings.separator
    let chain ← resolve .operator registry rule.target (·.name) rule.operators
    return ⟨compiled, chain⟩
  return ⟨rules, settings⟩

/-- Runs a chain of operators on the value at a path. Each is given what the one before it gave, or
the same value if that gave none. -/
def runChain (path : String) (value : Json) :
    List (Step OperatorSpec Operator) → Traced (Except Error Json)
  | [] => ⟨[], .ok value⟩
  | step :: rest =>
    let call : Call := ⟨step.spec.name, value⟩
    match step.function value step.spec.attributes with
    | .error complaint => ⟨[call], .error (.operatorFailed step.spec.name path complaint)⟩
    | .ok next =>
      let others := runChain path (next.getD value) rest
      ⟨call :: others.calls, others.result⟩

/-- Rewrites the values at paths, one after the other, up to the first failure. -/
def rewritePaths (chain : List (Step OperatorSpec Operator)) (view : FlatView) :
    List String → Traced Rewritten
  | [] => ⟨[], { view }⟩
  | path :: rest =>
    match view.get? path with
    | none => rewritePaths chain view rest
    | some value =>
      let run := runChain path value chain
      match run.result with
      | .error failure => ⟨run.calls, { view, failure := some failure }⟩
      | .ok next =>
        let others := rewritePaths chain (view.insert path next) rest
        ⟨run.calls ++ others.calls, others.result⟩

/-- Runs rules on a view in turn, up to the first failure. -/
def applyRules (view : FlatView) : List TransformRule → Traced Rewritten
  | [] => ⟨[], { view }⟩
  | rule :: rest =>
    let paths := (view.findMatches rule.compiled.pattern).keys
    let first := rewritePaths rule.chain view paths
    match first.result.failure with
    | some _ => first
    | none =>
      let others := applyRules first.result.view rest
      ⟨first.calls ++ others.calls, others.result⟩

/-- Runs all rules on a view. What was rewritten before a failure stays so. -/
def apply (engine : Transform) (view : FlatView) : Traced Rewritten := applyRules view engine.rules

/-- Rewrites one object. -/
def operateObject (engine : Transform) (data : Json) : Traced (Except Error Json) :=
  match data with
  | .object _ =>
    let run := engine.apply (data.flatten engine.settings.separator)
    ⟨run.calls, match run.result.failure with
      | some failure => .error failure
      | none => run.result.view.deflate engine.settings.separator⟩
  | data => .refused (.invalidShape data.kind)

/-- Rewrites objects one after the other, up to the first failure. -/
def operateEach (engine : Transform) : List Json → Traced (Except Error (List Json))
  | [] => ⟨[], .ok []⟩
  | row :: rest =>
    let first := engine.operateObject row
    match first.result with
    | .error failure => ⟨first.calls, .error failure⟩
    | .ok next =>
      let others := engine.operateEach rest
      ⟨first.calls ++ others.calls, others.result.map (next :: ·)⟩

/-- Rewrites rows, which all have to be objects. -/
def operateRows (engine : Transform) (rows : List Json) : Traced (Except Error (List Json)) :=
  match misshapenRow? rows with
  | some row => .refused (.invalidShape row.kind)
  | none => engine.operateEach rows

/-- Rewrites an object or a list of rows. -/
def operate (engine : Transform) (data : Json) : Traced (Except Error Json) :=
  match data with
  | .array rows =>
    let run := engine.operateRows rows
    ⟨run.calls, run.result.map .array⟩
  | data => engine.operateObject data

end Transform

end FieldRules.Engine
