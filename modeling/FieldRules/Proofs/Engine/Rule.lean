import FieldRules.Engine.Rule
import FieldRules.Proofs.Flat.Pattern
import FieldRules.Proofs.Outcome
import FieldRules.Settings

/-!
What a rule is once it is ready: its patterns and functions are those that its texts and names stand for.
-/

namespace FieldRules

/-- Settings that pass their check have a separator. -/
theorem Settings.separator_ne_empty_of_check {settings : Settings} (h : settings.check = .ok ()) :
    settings.separator ≠ "" := by
  intro hempty
  simp [check, fault?, hempty] at h

namespace Engine

namespace Traced

variable {α : Type} {run found : Traced α} {failure : Error}

@[simp]
theorem result_ok : run.ok.result = .ok run.result := rfl

@[simp]
theorem calls_ok : run.ok.calls = run.calls := rfl

@[simp]
theorem result_refused : (refused failure : Traced (Except Error α)).result = .error failure := rfl

@[simp]
theorem calls_refused : (refused failure : Traced (Except Error α)).calls = [] := rfl

@[simp]
theorem ok_inj : run.ok = found.ok ↔ run = found := by
  cases run
  cases found
  simp [ok]

/-- A result tells that the run came to its end, and what of it remains are the calls. -/
theorem result_eq_ok_iff {outcome : Traced (Except Error α)} {result : α} :
    outcome.result = .ok result ↔ ∃ run : Traced α, outcome = run.ok ∧ run.result = result := by
  constructor
  · intro h
    exact ⟨⟨outcome.calls, result⟩, by rw [ok, ← h], rfl⟩
  · rintro ⟨run, rfl, rfl⟩
    exact result_ok

end Traced

/-- Compiling a rule takes its markers away and makes a pattern of each of its texts. -/
theorem CompiledRule.compile_spec {rule : FieldRule} {separator : String} {compiled : CompiledRule}
    (h : CompiledRule.compile rule separator = .ok compiled) :
    compiled.rule = rule.absorbMarkers ∧ compiled.pattern.text = rule.target ∧
      compiled.pattern.separator = separator ∧
      rule.dependencies = compiled.dependencies.map (·.text) ∧
      ∀ dependency ∈ compiled.dependencies, dependency.separator = separator := by
  obtain ⟨pattern, hpattern, h⟩ := bind_eq_ok_iff.1 h
  obtain ⟨dependencies, hdependencies, h⟩ := bind_eq_ok_iff.1 h
  cases h
  obtain ⟨htext, hseparator⟩ := Pattern.compile_eq_ok_iff.1 hpattern
  rw [mapM_eq_ok_iff] at hdependencies
  refine ⟨rfl, htext, hseparator, ?_, ?_⟩
  · conv_lhs => rw [← List.map_id rule.dependencies]
    exact map_eq_map_of_forall₂ hdependencies fun text p hp => (Pattern.compile_eq_ok_iff.1 hp).1.symm
  · intro dependency hdependency
    obtain ⟨text, -, htext⟩ := exists_left_of_forall₂ hdependencies hdependency
    exact (Pattern.compile_eq_ok_iff.1 htext).2

/-- The steps of a chain are the uses of functions in a rule, each with the function of its name. -/
theorem resolve_spec {Spec Function : Type} {role : Role} {registry : Registry Function} {target : String}
    {name : Spec → String} {specs : List Spec} {chain : List (Step Spec Function)}
    (h : resolve role registry target name specs = .ok chain) :
    specs = chain.map (·.spec) ∧ ∀ step ∈ chain, registry.get? (name step.spec) = some step.function := by
  rw [resolve, mapM_eq_ok_iff] at h
  have hsteps : List.Forall₂ (fun spec step => spec = step.spec ∧
      registry.get? (name step.spec) = some step.function) specs chain := by
    refine h.imp fun spec step hstep => ?_
    split at hstep
    · next function hfunction =>
      cases hstep
      exact ⟨rfl, hfunction⟩
    · cases hstep
  refine ⟨?_, ?_⟩
  · conv_lhs => rw [← List.map_id specs]
    exact map_eq_map_of_forall₂ hsteps fun spec step hspec => hspec.1
  · intro step hmem
    obtain ⟨spec, -, -, hfunction⟩ := exists_left_of_forall₂ hsteps hmem
    exact hfunction

/-- The row that is named in a refusal is the first that is not an object. -/
theorem misshapenRow?_eq_some_iff {rows : List Json} {row : Json} :
    misshapenRow? rows = some row ↔ row.kind ≠ .object ∧ ∃ before after, rows = before ++ row :: after ∧
      ∀ earlier ∈ before, earlier.kind = .object := by
  rw [misshapenRow?, List.find?_eq_some_iff_append]
  simp

theorem misshapenRow?_eq_none_iff {rows : List Json} :
    misshapenRow? rows = none ↔ ∀ row ∈ rows, row.kind = .object := by
  simp [misshapenRow?]

/-- The data is an object or a list of objects, and these are its documents. -/
inductive Documents : Json → List Json → Prop
  | object (members : List (String × Json)) : Documents (.object members) [.object members]
  | rows {rows : List Json} (hobjects : ∀ row ∈ rows, row.kind = .object) : Documents (.array rows) rows

end Engine

end FieldRules
