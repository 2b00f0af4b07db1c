import FieldRules.Engine.Validation
import FieldRules.Proofs.Engine.Rule
import FieldRules.Proofs.Report.History

/-!
What checking an object reports and which functions it calls, rule by rule: a rule's block of records
depends on the rule and the view alone, and on nothing that the rules before it found.
-/

namespace FieldRules

/-- The pattern of a text addresses a key. -/
def Pattern.addresses (separator text key : String) : Bool :=
  match Pattern.compile text separator with
  | .ok p => p.test key
  | .error _ => false

/-- The pattern of a text addresses some key of a view. -/
def FlatView.HasMatch (view : FlatView) (separator text : String) : Prop :=
  ∃ key ∈ view.keys, Pattern.addresses separator text key = true

/-- The validators that a rule uses, without its markers. -/
def FieldRule.checks (rule : FieldRule) : List ValidatorSpec :=
  rule.validators.filter fun spec => !isPresenceMarker spec.name

theorem Pattern.addresses_text (p : Pattern) (key : String) :
    Pattern.addresses p.separator p.text key = p.test key := by
  rw [addresses, compile_eq_ok_iff.2 ⟨rfl, rfl⟩]

theorem FlatView.hasMatch_text_iff {view : FlatView} {p : Pattern} :
    view.HasMatch p.separator p.text ↔ (view.findMatches p).isEmpty = false := by
  rw [← Bool.not_eq_true, isEmpty_findMatches_iff, HasMatch]
  simp [Pattern.addresses_text]

namespace Engine.Validation

/-- The function that a rule names accepts a value. -/
def Accepts (registry : Registry Validator) (value : Json) (spec : ValidatorSpec) : Prop :=
  ∃ function, registry.get? spec.name = some function ∧ function value spec.attributes = .ok ()

/-- The function that a rule names refuses a value. -/
def Refuses (registry : Registry Validator) (value : Json) (spec : ValidatorSpec) (complaint : Complaint) :
    Prop :=
  ∃ function, registry.get? spec.name = some function ∧ function value spec.attributes = .error complaint

/-- The calls of validators on a value. -/
def callsOn (value : Json) (specs : List ValidatorSpec) : List Call :=
  specs.map fun spec => ⟨spec.name, value⟩

/-- What a rule finds out about the value at a key: nothing if all its validators accept the value, and
otherwise that the first of those that do not refuses it. No validator behind that one is called. -/
inductive ValueBlock (registry : Registry Validator) (locale : String) (rule : FieldRule) (key : String)
    (value : Json) : Traced (List Record) → Prop
  | accepted (haccepts : ∀ spec ∈ rule.checks, Accepts registry value spec) :
      ValueBlock registry locale rule key value ⟨callsOn value rule.checks, []⟩
  | refused {before after : List ValidatorSpec} {spec : ValidatorSpec} {complaint : Complaint}
      (hchecks : rule.checks = before ++ spec :: after)
      (haccepts : ∀ earlier ∈ before, Accepts registry value earlier)
      (hrefuses : Refuses registry value spec complaint) :
      ValueBlock registry locale rule key value ⟨callsOn value (before ++ [spec]), [{
        target := key
        validator := spec.name
        value := value
        messages := messages locale spec rule complaint }]⟩

/-- What a rule reports about a view: that it addresses nothing, if that is a fault; else the first of its
dependencies that addresses nothing; else what it finds out about each value that it addresses. -/
inductive RuleBlock (registry : Registry Validator) (settings : Settings) (view : FlatView)
    (rule : FieldRule) : Traced (List Record) → Prop
  | absent (hnone : ¬ view.HasMatch settings.separator rule.target) :
      RuleBlock registry settings view rule ⟨[],
        if rule.required = true ∨ ∃ spec ∈ rule.validators, isPresenceMarker spec.name = true then [{
          target := rule.target
          validator := "is-required"
          value := .null
          messages := .ofList [(settings.locale, "this field is required")] }]
        else []⟩
  | dependency {before after : List String} {missing : String}
      (hmatch : view.HasMatch settings.separator rule.target)
      (hdependencies : rule.dependencies = before ++ missing :: after)
      (hbefore : ∀ earlier ∈ before, view.HasMatch settings.separator earlier)
      (hmissing : ¬ view.HasMatch settings.separator missing) :
      RuleBlock registry settings view rule ⟨[], [{
        target := rule.target
        validator := "depends-on"
        value := .null
        messages := .ofList [(settings.locale, "this field depends on other values which do not exist")]
        context := some (.ofList [("missing", .string missing)]) }]⟩
  | checked {parts : List (Traced (List Record))}
      (hmatch : view.HasMatch settings.separator rule.target)
      (hdependencies : ∀ dependency ∈ rule.dependencies, view.HasMatch settings.separator dependency)
      (hparts : List.Forall₂
        (fun entry part => ValueBlock registry settings.locale rule entry.1 entry.2 part)
        (view.entries.filter fun entry => Pattern.addresses settings.separator rule.target entry.1) parts) :
      RuleBlock registry settings view rule ⟨parts.flatMap (·.calls), parts.flatMap (·.result)⟩

/-- The validators of a chain are called up to the first that refuses the value. -/
theorem firstRefusal_spec (value : Json) (chain : List (Step ValidatorSpec Validator)) :
    (firstRefusal value chain = ⟨callsOn value (chain.map (·.spec)), none⟩ ∧
      ∀ step ∈ chain, step.function value step.spec.attributes = .ok ()) ∨
    ∃ before step after complaint, chain = before ++ step :: after ∧
      (∀ earlier ∈ before, earlier.function value earlier.spec.attributes = .ok ()) ∧
      step.function value step.spec.attributes = .error complaint ∧
      firstRefusal value chain =
        ⟨callsOn value ((before ++ [step]).map (·.spec)), some (step.spec, complaint)⟩ := by
  induction chain with
  | nil => exact .inl ⟨rfl, by simp⟩
  | cons step rest ih =>
    cases hcall : step.function value step.spec.attributes with
    | error complaint =>
      exact .inr ⟨[], step, rest, complaint, rfl, by simp, hcall, by simp [firstRefusal, hcall, callsOn]⟩
    | ok =>
      rcases ih with ⟨hrest, haccepts⟩ | ⟨before, refusing, after, complaint, rfl, haccepts, hrefuses, hrest⟩
      · exact .inl ⟨by simp [firstRefusal, hcall, hrest, callsOn], List.forall_mem_cons.2 ⟨hcall, haccepts⟩⟩
      · exact .inr ⟨step :: before, refusing, after, complaint, rfl, List.forall_mem_cons.2 ⟨hcall, haccepts⟩,
          hrefuses, by simp [firstRefusal, hcall, hrest, callsOn]⟩

section Rule

variable {registry : Registry Validator} {settings : Settings} {rule : FieldRule} {ready : ValidationRule}

/-- A rule as an engine holds it. -/
structure Readies (registry : Registry Validator) (settings : Settings) (rule : FieldRule)
    (ready : ValidationRule) : Prop where
  compiled : CompiledRule.compile rule settings.separator = .ok ready.compiled
  chain : resolve .validator registry rule.target (·.name) ready.compiled.rule.validators = .ok ready.chain

theorem Readies.checks (h : Readies registry settings rule ready) :
    rule.checks = ready.chain.map (·.spec) := by
  have hchecks := (resolve_spec h.chain).1
  rw [(CompiledRule.compile_spec h.compiled).1] at hchecks
  exact hchecks

theorem Readies.get? (h : Readies registry settings rule ready) {step : Step ValidatorSpec Validator}
    (hstep : step ∈ ready.chain) : registry.get? step.spec.name = some step.function :=
  (resolve_spec h.chain).2 step hstep

theorem Readies.valueRecords_spec (h : Readies registry settings rule ready) (key : String) (value : Json) :
    ValueBlock registry settings.locale rule key value (valueRecords settings.locale ready key value) := by
  have hmessages (spec : ValidatorSpec) (complaint : Complaint) :
      messages settings.locale spec ready.compiled.rule complaint =
        messages settings.locale spec rule complaint := by
    rw [(CompiledRule.compile_spec h.compiled).1]
    rfl
  have haccept {steps : List (Step ValidatorSpec Validator)} (hsteps : ∀ step ∈ steps, step ∈ ready.chain)
      (haccepts : ∀ step ∈ steps, step.function value step.spec.attributes = .ok ()) :
      ∀ spec ∈ steps.map (·.spec), Accepts registry value spec := by
    intro spec hspec
    obtain ⟨step, hstep, rfl⟩ := List.mem_map.1 hspec
    exact ⟨step.function, h.get? (hsteps step hstep), haccepts step hstep⟩
  rcases firstRefusal_spec value ready.chain with
    ⟨hfirst, haccepts⟩ | ⟨before, step, after, complaint, hchain, haccepts, hrefuses, hfirst⟩
  · rw [valueRecords, hfirst, ← h.checks]
    exact .accepted (h.checks ▸ haccept (fun _ hstep => hstep) haccepts)
  · have hchecks := h.checks
    rw [hchain, List.map_append, List.map_cons] at hchecks
    rw [valueRecords, hfirst, List.map_append, List.map_singleton]
    simp only [hmessages]
    refine .refused hchecks (haccept ?_ haccepts) ⟨step.function, h.get? ?_, hrefuses⟩
    · exact fun earlier hearlier => hchain ▸ List.mem_append_left _ hearlier
    · exact hchain ▸ List.mem_append_right _ List.mem_cons_self

theorem Readies.block_spec (h : Readies registry settings rule ready) (view : FlatView) :
    RuleBlock registry settings view rule (block settings.locale view ready) := by
  obtain ⟨hrule, htext, hseparator, hdependencies, hseparators⟩ := CompiledRule.compile_spec h.compiled
  have htarget : ready.compiled.rule.target = rule.target := by
    rw [hrule]
    rfl
  have hmatch : view.HasMatch settings.separator rule.target ↔
      (view.findMatches ready.compiled.pattern).entries.isEmpty = false := by
    rw [← htext, ← hseparator]
    exact FlatView.hasMatch_text_iff
  have hdependency (dependency : Pattern) (hmem : dependency ∈ ready.compiled.dependencies) :
      view.HasMatch settings.separator dependency.text ↔ (view.findMatches dependency).isEmpty = false := by
    rw [← hseparators dependency hmem]
    exact FlatView.hasMatch_text_iff
  cases hempty : (view.findMatches ready.compiled.pattern).entries.isEmpty with
  | true =>
    have hrequired : ready.compiled.rule.required = true ↔
        rule.required = true ∨ ∃ spec ∈ rule.validators, isPresenceMarker spec.name = true := by
      rw [hrule]
      simp [FieldRule.absorbMarkers]
    have hblock : block settings.locale view ready =
        ⟨[], if ready.compiled.rule.required then [requiredRecord settings.locale rule.target] else []⟩ := by
      simp only [block, hempty, htarget, ↓reduceIte]
    rw [hblock, if_congr hrequired rfl rfl]
    exact .absent (by simp [hmatch, hempty])
  | false =>
    cases hmissing : ready.compiled.missingDependency? view with
    | some missing =>
      have hblock : block settings.locale view ready =
          ⟨[], [dependencyRecord settings.locale rule.target missing.text]⟩ := by
        simp [block, hempty, htarget, hmissing]
      obtain ⟨hnone, before, after, hsplit, hbefore⟩ := List.find?_eq_some_iff_append.1 hmissing
      rw [hblock]
      refine @RuleBlock.dependency registry settings view rule (before.map (·.text)) (after.map (·.text))
        missing.text (hmatch.2 hempty) ?_ ?_ ?_
      · rw [hdependencies, hsplit, List.map_append, List.map_cons]
      · intro text htext
        obtain ⟨earlier, hearlier, rfl⟩ := List.mem_map.1 htext
        refine (hdependency earlier (hsplit ▸ List.mem_append_left _ hearlier)).2 ?_
        simpa using hbefore earlier hearlier
      · rw [hdependency missing (hsplit ▸ List.mem_append_right _ List.mem_cons_self), hnone]
        simp
    | none =>
      have hblock : block settings.locale view ready =
          let parts := (view.findMatches ready.compiled.pattern).entries.map fun entry =>
            valueRecords settings.locale ready entry.1 entry.2
          ⟨parts.flatMap (·.calls), parts.flatMap (·.result)⟩ := by
        simp [block, hempty, hmissing]
      rw [hblock]
      refine .checked (hmatch.2 hempty) ?_ ?_
      · intro text htext
        rw [hdependencies] at htext
        obtain ⟨dependency, hmem, rfl⟩ := List.mem_map.1 htext
        refine (hdependency dependency hmem).2 ?_
        simpa using List.find?_eq_none.1 hmissing dependency hmem
      · have hentries : (view.entries.filter fun entry =>
            Pattern.addresses settings.separator rule.target entry.1) =
              (view.findMatches ready.compiled.pattern).entries := by
          simp only [FlatView.entries_findMatches, ← htext, ← hseparator, Pattern.addresses_text]
        rw [hentries, List.forall₂_map_right_iff, List.forall₂_same]
        exact fun entry _ => h.valueRecords_spec entry.1 entry.2

end Rule

/-- An engine holds the rules of its schema, each made ready, in their order. -/
theorem ofSchema_spec {schema : Schema} {registry : Registry Validator} {settings : Settings}
    {engine : Validation} (h : ofSchema schema registry settings = .ok engine) :
    engine.settings = settings ∧ List.Forall₂ (Readies registry settings) schema.rules engine.rules := by
  obtain ⟨-, -, h⟩ := bind_eq_ok_iff.1 h
  obtain ⟨rules, hrules, h⟩ := bind_eq_ok_iff.1 h
  cases h
  rw [mapM_eq_ok_iff] at hrules
  refine ⟨rfl, hrules.imp ?_⟩
  intro rule ready h
  obtain ⟨compiled, hcompiled, h⟩ := bind_eq_ok_iff.1 h
  obtain ⟨chain, hchain, h⟩ := bind_eq_ok_iff.1 h
  cases h
  exact ⟨hcompiled, hchain⟩

theorem separator_ne_empty_of_ofSchema {schema : Schema} {registry : Registry Validator} {settings : Settings}
    {engine : Validation} (h : ofSchema schema registry settings = .ok engine) : settings.separator ≠ "" := by
  obtain ⟨⟨⟩, hcheck, -⟩ := bind_eq_ok_iff.1 h
  exact Settings.separator_ne_empty_of_check hcheck

/-- Checking an object succeeds and reports the blocks of the schema's rules in their order, and it calls
the functions that these blocks call. -/
theorem validateObject_spec {schema : Schema} {registry : Registry Validator} {settings : Settings}
    {engine : Validation} (hengine : ofSchema schema registry settings = .ok engine)
    (members : List (String × Json)) :
    ∃ blocks report, engine.validateObject (.object members) = .ok report ∧
      List.Forall₂ (RuleBlock registry settings ((Json.object members).flatten settings.separator))
        schema.rules blocks ∧
      report.result.records.toList = blocks.flatMap (·.result) ∧
      report.calls = blocks.flatMap (·.calls) := by
  obtain ⟨hsettings, hrules⟩ := ofSchema_spec hengine
  let view := (Json.object members).flatten settings.separator
  refine ⟨engine.rules.map (block settings.locale view), _, rfl, ?_, ?_, ?_⟩
  · rw [List.forall₂_map_right_iff]
    exact hrules.imp fun rule ready hready => hready.block_spec view
  · have htagged : (fun record : Record => record.tagged none) = id := rfl
    rw [report, Report.toList_records_foldl_append, viewRecords, htagged, List.map_id, hsettings]
    simp [view]
  · rw [report, viewRecords, hsettings]

/-- A marker makes a rule required, and a refusal ends a chain. -/
theorem validateObject_spec_refusal :
    let registry : Registry Validator :=
      OrderedMap.ofList [("never", fun _ _ => .error "refused"), ("always", fun _ _ => .ok ())]
    let schema : Schema := { rules := [
      { target := "a", validators := [{ name := "always" }, { name := "never" }, { name := "always" }] },
      { target := "b.*", validators := [{ name := "Must-Have" }] }] }
    ∃ engine, ofSchema schema registry {} = .ok engine ∧
      ∃ blocks report, engine.validateObject (.object [("a", .null)]) = .ok report ∧
        List.Forall₂ (RuleBlock registry {} ((Json.object [("a", .null)]).flatten ".")) schema.rules blocks ∧
        report.result.records.toList = blocks.flatMap (·.result) ∧
        report.calls = blocks.flatMap (·.calls) ∧
        report.calls = [⟨"always", .null⟩, ⟨"never", .null⟩] ∧
        report.result.records.toList.map (fun record => (record.target, record.validator)) =
          [("a", "never"), ("b.*", "is-required")] := by
  intro registry schema
  refine ⟨_, rfl, ?_⟩
  obtain ⟨blocks, report, hreport, hblocks, hrecords, hcalls⟩ :=
    @validateObject_spec schema registry {} _ rfl [("a", .null)]
  obtain rfl := Traced.ok_inj.1 hreport
  exact ⟨blocks, _, hreport, hblocks, hrecords, hcalls, rfl, rfl⟩

end Engine.Validation

end FieldRules
