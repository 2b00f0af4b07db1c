import FieldRules.Flat.Pattern
import FieldRules.Schema.Basic

/-!
Field rules made ready for a separator, and what running them leaves behind.
-/

namespace FieldRules.Engine

/-- A rule without markers, with its patterns compiled. -/
structure CompiledRule where
  rule : FieldRule
  pattern : Pattern
  dependencies : List Pattern

namespace CompiledRule

def compile (rule : FieldRule) (separator : String) : Except Error CompiledRule := do
  let rule := rule.absorbMarkers
  let pattern ← Pattern.compile rule.target separator
  let dependencies ← rule.dependencies.mapM fun text => Pattern.compile text separator
  return ⟨rule, pattern, dependencies⟩

/-- The first dependency that addresses nothing in the view. -/
def missingDependency? (compiled : CompiledRule) (view : FlatView) : Option Pattern :=
  compiled.dependencies.find? fun dependency => (view.findMatches dependency).isEmpty

end CompiledRule

/-- A function under its name, with the arguments that a rule gives to it. -/
structure Step (Spec Function : Type) where
  spec : Spec
  function : Function

/-- Looks up the functions of a rule, in the order of its chain. -/
def resolve {Spec Function : Type} (role : Role) (registry : Registry Function) (target : String)
    (name : Spec → String) (specs : List Spec) : Except Error (List (Step Spec Function)) :=
  specs.mapM fun spec =>
    match registry.get? (name spec) with
    | some function => .ok ⟨spec, function⟩
    | none => .error (.unknownFunction role (name spec) target)

/-- A call of a named function on a value. -/
structure Call where
  name : String
  value : Json
  deriving DecidableEq

/-- A result and the calls of functions that were made on the way, in order. -/
structure Traced (α : Type) where
  calls : List Call
  result : α

namespace Traced

variable {α : Type}

/-- A run that came to its end. -/
def ok (run : Traced α) : Traced (Except Error α) := ⟨run.calls, .ok run.result⟩

/-- A refusal at the outset, before anything is called. -/
def refused (failure : Error) : Traced (Except Error α) := ⟨[], .error failure⟩

end Traced

/-- The first row that is not an object. -/
def misshapenRow? (rows : List Json) : Option Json := rows.find? fun row => row.kind != .object

end FieldRules.Engine
