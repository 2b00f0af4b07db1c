import FieldRules.Proofs.Engine.Transform
import FieldRules.Proofs.Flat.Rewrite

/-!
Rewriting an object is rewriting its terminals where they stand. A rule goes to work at a place if its segments
accept the steps that lead there; what becomes of a terminal depends on these rules alone, and the object around
the terminals stays as it is, whatever the operators give.
-/

namespace FieldRules.Engine.Transform

/-- A rule as an engine holds it. -/
structure Readies (registry : Registry Operator) (settings : Settings) (rule : FieldRule)
    (ready : TransformRule) : Prop where
  compiled : CompiledRule.compile rule settings.separator = .ok ready.compiled
  chain : resolve .operator registry rule.target (·.name) rule.operators = .ok ready.chain

/-- The rules of a schema that an engine holds. -/
def operating (rules : List FieldRule) : List FieldRule := rules.filter fun rule => !rule.operators.isEmpty

theorem ofSchema_eq_ok_iff {schema : Schema} {registry : Registry Operator} {settings : Settings}
    {engine : Transform} :
    ofSchema schema registry settings = .ok engine ↔
      settings.check = .ok () ∧ engine.settings = settings ∧
        List.Forall₂ (Readies registry settings) (operating schema.rules) engine.rules := by
  have hready (rule : FieldRule) (ready : TransformRule) :
      ((do
        let compiled ← CompiledRule.compile rule settings.separator
        let chain ← resolve .operator registry rule.target (·.name) rule.operators
        return ⟨compiled, chain⟩) : Except Error TransformRule) = .ok ready ↔
        Readies registry settings rule ready := by
    simp only [bind_eq_ok_iff]
    constructor
    · rintro ⟨compiled, hcompiled, chain, hchain, h⟩
      cases h
      exact ⟨hcompiled, hchain⟩
    · rintro ⟨hcompiled, hchain⟩
      exact ⟨ready.compiled, hcompiled, ready.chain, hchain, rfl⟩
  simp only [ofSchema, bind_eq_ok_iff, mapM_eq_ok_iff, hready]
  constructor
  · rintro ⟨⟨⟩, hcheck, rules, hrules, h⟩
    cases h
    exact ⟨hcheck, rfl, hrules⟩
  · rintro ⟨hcheck, hsettings, hrules⟩
    subst hsettings
    exact ⟨(), hcheck, engine.rules, hrules, rfl⟩

/-- A step of an engine's rules is the use of an operator in a rule of the schema, with the function of its name. -/
theorem exists_rule_of_mem_chain {schema : Schema} {registry : Registry Operator} {settings : Settings}
    {engine : Transform} (hengine : ofSchema schema registry settings = .ok engine) {ready : TransformRule}
    (hready : ready ∈ engine.rules) {step : Step OperatorSpec Operator} (hstep : step ∈ ready.chain) :
    (∃ rule ∈ schema.rules, step.spec ∈ rule.operators) ∧ registry.get? step.spec.name = some step.function := by
  obtain ⟨-, -, hrules⟩ := ofSchema_eq_ok_iff.1 hengine
  obtain ⟨rule, hrule, hreadies⟩ := exists_left_of_forall₂ hrules hready
  obtain ⟨hspecs, hfunctions⟩ := resolve_spec hreadies.chain
  exact ⟨⟨rule, List.mem_of_mem_filter hrule, hspecs ▸ List.mem_map_of_mem hstep⟩, hfunctions step hstep⟩

/-- The operators for a terminal: the chains of the rules whose segments accept the steps that lead to it, in
the order of the rules. -/
def operatorsAt (engine : Transform) (steps : List Json.Step) : List (Step OperatorSpec Operator) :=
  (engine.rules.filter fun rule => List.Forall₂ Json.Accepts
    (Path.segments engine.settings.separator rule.compiled.pattern.text) steps).flatMap (·.chain)

/-- What these operators make of the terminal, each of them given what the one before it gave. -/
def rewriteAt (engine : Transform) (steps : List Json.Step) (value : Json) : Except Error Json :=
  (engine.operatorsAt steps).foldlM (rewrite (Json.pathOf engine.settings.separator steps)) value

/-- Rules that fail on a view do so at one of its keys, with the failure of the chains there. -/
theorem exists_composed_eq_error {rules : List TransformRule} {view : FlatView} {failure : Error}
    (h : (applyRules view rules).result.failure = some failure) :
    ∃ key value, (key, value) ∈ view.entries ∧ composed rules key value = .error failure := by
  obtain ⟨before, rule, after, done, key, rest, value, rfl, -, hvalue, hfailure, -⟩ :=
    (applyRules_spec rules view).2 failure h
  refine ⟨key, value, OrderedMap.get?_eq_some_iff.1 hvalue, ?_⟩
  rw [List.append_cons, composed_append, hfailure]
  rfl

/-- On an object, an engine rewrites the flat view and rebuilds it, unless a rule fails. -/
theorem result_operateObject (engine : Transform) (members : List (String × Json)) :
    (engine.operateObject (.object members)).result =
      let final := (applyRules ((Json.object members).flatten engine.settings.separator) engine.rules).result
      match final.failure with
      | some failure => .error failure
      | none => final.view.deflate engine.settings.separator := rfl

section OperateObject

variable {schema : Schema} {registry : Registry Operator} {settings : Settings} {engine : Transform}
  (hengine : ofSchema schema registry settings = .ok engine)
include hengine

theorem settings_eq : engine.settings = settings :=
  (ofSchema_eq_ok_iff.1 hengine).2.1

theorem separator_ne_empty : settings.separator ≠ "" :=
  Settings.separator_ne_empty_of_check (ofSchema_eq_ok_iff.1 hengine).1

theorem pattern_separator {rule : TransformRule} (hrule : rule ∈ engine.rules) :
    rule.compiled.pattern.separator = settings.separator := by
  obtain ⟨-, -, hrules⟩ := ofSchema_eq_ok_iff.1 hengine
  obtain ⟨source, -, hready⟩ := exists_left_of_forall₂ hrules hrule
  exact (CompiledRule.compile_spec hready.compiled).2.2.1

variable {d : Json} (hdigit : ∀ c ∈ settings.separator.toList, c.isDigit = false)
  (hkeys : d.KeysAvoid settings.separator)
  (hroot : ∀ members, d = .object members → "" ∉ Assoc.keys members)
include hdigit hkeys hroot

/-- The rules for the path of a place are those for the place. -/
theorem composed_pathOf {place : List Json.Step × Json} (hplace : place ∈ d.places) (value : Json) :
    composed engine.rules (Json.pathOf settings.separator place.1) value = engine.rewriteAt place.1 value := by
  have hsettings := settings_eq hengine
  have hsep := separator_ne_empty hengine
  have hsteps : stepsFor engine.rules (Json.pathOf settings.separator place.1) = engine.operatorsAt place.1 := by
    rw [stepsFor, operatorsAt, hsettings]
    congr 1
    refine List.filter_congr fun rule hrule => Bool.eq_iff_iff.2 ?_
    rw [decide_eq_true_iff]
    exact Json.test_pathOf_iff hsep hdigit hkeys hroot (pattern_separator hengine hrule) hplace
  rw [composed, rewriteAt, hsteps, hsettings]

variable (hv : d.WellFormed)
include hv

/-- Rules that fail on a flat view do so at one of the places, with the failure of an operator there. -/
theorem exists_rewriteAt_eq_error {failure : Error}
    (h : (applyRules (d.flatten settings.separator) engine.rules).result.failure = some failure) :
    ∃ place ∈ d.places, engine.rewriteAt place.1 place.2 = .error failure ∧
      ∃ operator cause, failure = .operatorFailed operator (Json.pathOf settings.separator place.1) cause := by
  have hsep := separator_ne_empty hengine
  obtain ⟨key, value, hentry, hfailure⟩ := exists_composed_eq_error h
  rw [Json.entries_flatten_eq_places hsep hdigit hkeys hroot hv] at hentry
  obtain ⟨place, hplace, heq⟩ := List.mem_map.1 hentry
  obtain ⟨rfl, rfl⟩ := Prod.mk.inj heq
  obtain ⟨step, -, complaint, hoperator⟩ := operatorFailed_of_foldlM_eq_error hfailure
  rw [composed_pathOf hengine hdigit hkeys hroot hplace] at hfailure
  exact ⟨place, hplace, hfailure, step.spec.name, complaint, hoperator⟩

/-- Rules that do not fail leave a view with what they make of the terminal at every place. -/
theorem rewriteAt_of_failure_eq_none
    (h : (applyRules (d.flatten settings.separator) engine.rules).result.failure = none)
    {place : List Json.Step × Json} (hplace : place ∈ d.places) :
    engine.rewriteAt place.1 place.2 = .ok (Json.valueAt settings.separator
      (applyRules (d.flatten settings.separator) engine.rules).result.view
      (place.1.map Json.Step.segment)) := by
  have hsep := separator_ne_empty hengine
  have hbecomes := (applyRules_spec engine.rules (d.flatten settings.separator)).1 h
  have hvalue : (d.flatten settings.separator).get? (Json.pathOf settings.separator place.1) = some place.2 := by
    rw [OrderedMap.get?_eq_some_iff, Json.entries_flatten_eq_places hsep hdigit hkeys hroot hv]
    exact List.mem_map_of_mem hplace
  obtain ⟨result, hresult, hrewritten⟩ := hbecomes.values _ _ hvalue
  rw [Json.valueAt, Json.descend_steps hsep hdigit hkeys hroot hplace, hrewritten, Option.getD_some,
    ← composed_pathOf hengine hdigit hkeys hroot hplace, hresult]

end OperateObject

/-- Rewriting an object that comes back from its flat view fails exactly if the operators for one of its
terminals fail, and then with the failure of an operator there. Otherwise it gives the object with every
terminal replaced by what the operators for it make of it, and with nothing else changed. -/
theorem operateObject_spec {schema : Schema} {registry : Registry Operator} {settings : Settings}
    {engine : Transform} (hengine : ofSchema schema registry settings = .ok engine)
    {members : List (String × Json)} (hv : (Json.object members).WellFormed)
    (hdigit : ∀ c ∈ settings.separator.toList, c.isDigit = false)
    (hkeys : (Json.object members).KeysAvoid settings.separator) (hd : (Json.object members).Rebuildable) :
    let d := Json.object members
    let outcome := (engine.operateObject d).result
    ((∃ failure, outcome = .error failure) ↔
      ∃ place ∈ d.places, ∃ failure, engine.rewriteAt place.1 place.2 = .error failure) ∧
    (∀ failure, outcome = .error failure → ∃ place ∈ d.places,
      engine.rewriteAt place.1 place.2 = .error failure ∧
      ∃ operator cause, failure = .operatorFailed operator (Json.pathOf settings.separator place.1) cause) ∧
    ∀ w, outcome = .ok w → ∃ f : List Json.Step → Json → Json,
      (∀ place ∈ d.places, engine.rewriteAt place.1 place.2 = .ok (f place.1 place.2)) ∧
      w = d.mapPlaces f := by
  intro d outcome
  have hsettings := settings_eq hengine
  let final := (applyRules (d.flatten settings.separator) engine.rules).result
  have houtcome : outcome = match final.failure with
      | some failure => .error failure
      | none => final.view.deflate settings.separator := by
    simp only [outcome, d, final, result_operateObject, hsettings]
  cases hfinal : final.failure with
  | some failure =>
    obtain ⟨place, hplace, hfailure, hoperator⟩ :=
      exists_rewriteAt_eq_error hengine hdigit hkeys hd.root hv hfinal
    simp only [houtcome, hfinal, Except.error.injEq, exists_eq', reduceCtorEq, false_implies, implies_true,
      and_true, true_iff, forall_eq']
    exact ⟨⟨place, hplace, failure, hfailure⟩, place, hplace, hfailure, hoperator⟩
  | none =>
    have hrewritten (place : List Json.Step × Json) (hplace : place ∈ d.places) :=
      rewriteAt_of_failure_eq_none hengine hdigit hkeys hd.root hv hfinal hplace
    have hspelled := Json.spelled_of_keysAvoid (separator_ne_empty hengine) hdigit hkeys hd.root
    have hbecomes := (applyRules_spec engine.rules (d.flatten settings.separator)).1 hfinal
    have hok := Json.deflate_of_keys_eq hspelled hv hbecomes.keys (separator_ne_empty hengine) hd.toRegular
    rw [hfinal] at houtcome
    refine ⟨iff_of_false ?_ ?_, ?_, ?_⟩
    · rintro ⟨failure, hfailure⟩
      rw [houtcome, hok] at hfailure
      cases hfailure
    · rintro ⟨place, hplace, failure, hfailure⟩
      rw [hrewritten place hplace] at hfailure
      cases hfailure
    · intro failure hfailure
      rw [houtcome, hok] at hfailure
      cases hfailure
    · intro w hw
      rw [houtcome, hok] at hw
      cases hw
      exact ⟨_, hrewritten, rfl⟩

/-- An operator may put a whole object where a terminal stood. -/
theorem operateObject_spec_container :
    let registry : Registry Operator :=
      OrderedMap.ofList [("Wrap", fun value _ => .ok (some (.object [("was", value)])))]
    let schema : Schema := { rules := [{ target := "rows.*.n", operators := [{ name := "Wrap" }] }] }
    let members : List (String × Json) :=
      [("rows", .array [.object [("n", .null)], .object []]), ("x", .bool true)]
    ∃ engine, ofSchema schema registry {} = .ok engine ∧ (Json.object members).WellFormed ∧
      (Json.object members).KeysAvoid "." ∧ (Json.object members).Rebuildable ∧
      ∃ f : List Json.Step → Json → Json,
        (∀ place ∈ (Json.object members).places, engine.rewriteAt place.1 place.2 = .ok (f place.1 place.2)) ∧
        (engine.operateObject (.object members)).result = .ok ((Json.object members).mapPlaces f) ∧
        (Json.object members).mapPlaces f = .object
          [("rows", .array [.object [("n", .object [("was", .null)])], .object []]), ("x", .bool true)] := by
  intro registry schema members
  have hterminal (value : Json) (h : value.isTerminal = true) : value.KeysAvoid "." ∧ value.Regular :=
    ⟨Json.keysAvoid_of_terminal h, Json.regular_of_terminal h⟩
  have hnull := hterminal .null rfl
  have hnone := hterminal (.object []) rfl
  have htrue := hterminal (.bool true) rfl
  have hv : (Json.object members).WellFormed := by
    simp [members, Json.WellFormed, Json.WellFormedMembers, Json.WellFormedItems]
  have hkeys : (Json.object members).KeysAvoid "." := by
    simp [members, Json.keysAvoid_object_iff, Json.keysAvoid_array_iff, Path.Avoids, hnull.1, hnone.1, htrue.1]
  have hregular : (Json.object members).Regular := by
    have hnames : (Path.isIndex "rows" = false ∧ Path.isIndex "x" = false) ∧ Path.isIndex "n" = false := by decide
    simpa [members, Json.regular_object_iff, Json.regular_array_iff, hnull.2, hnone.2, htrue.2] using hnames
  have hd : (Json.object members).Rebuildable := by
    refine ⟨hregular, ?_⟩
    rintro others ⟨rfl⟩
    decide
  let engine : Transform :=
    { rules := [⟨⟨{ target := "rows.*.n", operators := [{ name := "Wrap" }] }, ⟨"rows.*.n", ".", rfl, rfl⟩, []⟩,
        [⟨{ name := "Wrap" }, fun value _ => .ok (some (.object [("was", value)]))⟩]⟩],
      settings := {} }
  have hengine : ofSchema schema registry {} = .ok engine := rfl
  let w : Json :=
    .object [("rows", .array [.object [("n", .object [("was", .null)])], .object []]), ("x", .bool true)]
  have hresult : (engine.operateObject (.object members)).result = .ok w := by decide +kernel
  obtain ⟨-, -, hok⟩ := operateObject_spec hengine hv (by simp) hkeys hd
  obtain ⟨f, hf, hw⟩ := hok _ hresult
  exact ⟨engine, hengine, hv, hkeys, hd, f, hf, hw ▸ hresult, hw.symm⟩

end FieldRules.Engine.Transform
