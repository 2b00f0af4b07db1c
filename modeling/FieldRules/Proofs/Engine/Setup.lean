import FieldRules.Proofs.Dialect.Rule
import FieldRules.Proofs.Engine.Documents
import FieldRules.Proofs.Engine.Untouched
import FieldRules.Proofs.Flat.Culprit
import Mathlib.Data.List.TakeWhile

/-!
Making engines. All that can be wrong with settings and a schema stands in one list, in the order in which it is
looked for; an engine is made if the list is empty, and otherwise its first entry is what is reported. What can still
fail in an engine that has been made lies in the data or in an operator.
-/

namespace FieldRules

/-- The failure lies in settings, in a pattern or in a name, and so in nothing that an engine is given later. -/
inductive Error.OfSetup : Error → Prop
  | setting (fault : SettingFault) : OfSetup (.setting fault)
  | pattern (text : String) (fault : PatternFault) : OfSetup (.invalidPattern text fault)
  | name (role : Role) (name target : String) : OfSetup (.unknownFunction role name target)

/-- Settings with a separator, a locale that is not blank and, if any, a path for the identities of rows. -/
structure Settings.Valid (settings : Settings) : Prop where
  separator : settings.separator ≠ ""
  locale : ∃ c ∈ settings.locale.toList, Text.isBlank c = false
  idKey : settings.idKey ≠ some ""

/-- All that is wrong with settings, in the order in which it is looked for. -/
def Settings.problems (settings : Settings) : List Error :=
  (if settings.separator = "" then [.setting .emptySeparator] else []) ++
    (if settings.locale.toList.all Text.isBlank then [.setting .blankLocale] else []) ++
      if settings.idKey = some "" then [.setting .emptyIdKey] else []

/-- What is wrong with the text of a pattern. -/
def Pattern.problems (text : String) : List Error :=
  if text = "" then [.invalidPattern text .emptyPattern] else []

namespace Text

/-- Nothing is left of a text just if it is all white space. -/
theorem isEmpty_trim (s : String) : (trim s).isEmpty = s.toList.all isBlank := by
  have hstart : (∀ c ∈ trimStart s.toList, isBlank c = true) ↔ ∀ c ∈ s.toList, isBlank c = true := by
    conv_rhs => rw [← List.takeWhile_append_dropWhile (p := isBlank) (l := s.toList), List.forall_mem_append]
    exact ⟨fun h => ⟨fun c hc => List.mem_takeWhile_imp hc, h⟩, And.right⟩
  rw [Bool.eq_iff_iff, List.all_eq_true, ← hstart, trim, String.isEmpty_iff, ← String.toList_eq_nil_iff,
    String.toList_ofList, trimEnd, List.reverse_eq_nil_iff, List.dropWhile_eq_nil_iff]
  simp only [List.mem_reverse]

end Text

theorem Settings.failure?_check (settings : Settings) : failure? settings.check = settings.problems.head? := by
  rw [check, fault?, problems, Text.isEmpty_trim]
  by_cases hseparator : settings.separator = ""
  · rw [if_pos (String.isEmpty_iff.2 hseparator), if_pos hseparator]
    rfl
  rw [if_neg (mt String.isEmpty_iff.1 hseparator), if_neg hseparator]
  cases settings.locale.toList.all Text.isBlank with
  | true => rfl
  | false =>
    by_cases hid : settings.idKey = some ""
    · rw [if_pos hid, if_pos hid]
      rfl
    · rw [if_neg hid, if_neg hid]
      rfl

theorem Settings.problems_eq_nil_iff {settings : Settings} : settings.problems = [] ↔ settings.Valid := by
  have hblank : ¬ settings.locale.toList.all Text.isBlank = true ↔
      ∃ c ∈ settings.locale.toList, Text.isBlank c = false := by
    simp
  simp only [problems, List.append_eq_nil_iff, ite_eq_right_iff, reduceCtorEq, imp_false, hblank]
  exact ⟨fun ⟨⟨hseparator, hlocale⟩, hid⟩ => ⟨hseparator, hlocale, hid⟩,
    fun ⟨hseparator, hlocale, hid⟩ => ⟨⟨hseparator, hlocale⟩, hid⟩⟩

/-- Where there is a separator, a pattern is refused only for being empty. -/
theorem Pattern.failure?_compile {separator : String} (hseparator : separator ≠ "") (text : String) :
    failure? (compile text separator) = (Pattern.problems text).head? := by
  have hseparator : separator.isEmpty = false := by simpa using hseparator
  by_cases htext : text = ""
  · simp [compile, Pattern.problems, htext, failure?]
  · simp [compile, Pattern.problems, htext, hseparator, failure?]

namespace Engine

section Rule

variable {Function : Type}

/-- What is wrong with a name that a rule for a target uses. -/
def nameProblems (role : Role) (registry : Registry Function) (target name : String) : List Error :=
  if registry.contains name then [] else [.unknownFunction role name target]

/-- All that is wrong with a rule and the names that it uses, in the order in which it is looked for. -/
def ruleProblems (role : Role) (registry : Registry Function) (rule : FieldRule) (names : List String) :
    List Error :=
  (rule.target :: rule.dependencies).flatMap Pattern.problems ++
    names.flatMap (nameProblems role registry rule.target)

theorem CompiledRule.failure?_compile {separator : String} (hseparator : separator ≠ "") (rule : FieldRule) :
    failure? (compile rule separator) = ((rule.target :: rule.dependencies).flatMap Pattern.problems).head? := by
  rw [List.flatMap_cons, List.head?_append, ← Pattern.failure?_compile hseparator,
    ← failure?_mapM fun text _ => Pattern.failure?_compile hseparator text, compile]
  refine failure?_bind fun pattern _ => ?_
  rw [show rule.absorbMarkers.dependencies = rule.dependencies from rfl]
  cases rule.dependencies.mapM fun text => Pattern.compile text separator <;> rfl

theorem failure?_resolve {Spec : Type} (role : Role) (registry : Registry Function) (target : String)
    (name : Spec → String) (specs : List Spec) :
    failure? (resolve role registry target name specs) =
      ((specs.map name).flatMap (nameProblems role registry target)).head? := by
  rw [List.flatMap_map, resolve]
  refine failure?_mapM fun spec _ => ?_
  rw [nameProblems, OrderedMap.contains]
  cases registry.get? (name spec) <;> rfl

/-- A rule is made ready by its patterns first and then by the names that it uses. -/
theorem failure?_ready {Spec Ready : Type} {separator : String} (hseparator : separator ≠ "") (role : Role)
    (registry : Registry Function) (rule : FieldRule) (name : Spec → String) {specs : CompiledRule → List Spec}
    {uses : List Spec}
    (hspecs : ∀ compiled, CompiledRule.compile rule separator = .ok compiled → specs compiled = uses)
    (ready : CompiledRule → List (Step Spec Function) → Ready) :
    failure? (CompiledRule.compile rule separator >>= fun compiled =>
      resolve role registry rule.target name (specs compiled) >>= fun chain => pure (ready compiled chain)) =
      (ruleProblems role registry rule (uses.map name)).head? := by
  rw [ruleProblems, List.head?_append, ← CompiledRule.failure?_compile hseparator,
    ← failure?_resolve role registry rule.target]
  refine failure?_bind fun compiled hcompiled => ?_
  rw [failure?_bind_pure, hspecs compiled hcompiled]

theorem ruleProblems_eq_nil_iff {role : Role} {registry : Registry Function} {rule : FieldRule}
    {names : List String} :
    ruleProblems role registry rule names = [] ↔ rule.Addressed ∧ ∀ name ∈ names, name ∈ registry.keys := by
  have hpattern (text : String) : Pattern.problems text = [] ↔ text ≠ "" := by simp [Pattern.problems]
  have hname (name : String) : nameProblems role registry rule.target name = [] ↔ name ∈ registry.keys := by
    rw [nameProblems, ← OrderedMap.contains_iff]
    simp
  rw [ruleProblems, List.append_eq_nil_iff, List.flatMap_eq_nil_iff, List.flatMap_eq_nil_iff, List.forall_mem_cons]
  simp only [hpattern, hname]
  exact and_congr_left' ⟨fun ⟨htarget, hdependencies⟩ => ⟨htarget, hdependencies⟩,
    fun ⟨htarget, hdependencies⟩ => ⟨htarget, hdependencies⟩⟩

end Rule

/-- All that keeps data from being checked by a schema, in the order in which it is looked for. -/
def Validation.problems (schema : Schema) (registry : Registry Validator) (settings : Settings) : List Error :=
  settings.problems ++ schema.rules.flatMap fun rule =>
    ruleProblems .validator registry rule (rule.checks.map (·.name))

/-- All that keeps data from being rewritten by a schema, in the order in which it is looked for. Rules without
operators do not count. -/
def Transform.problems (schema : Schema) (registry : Registry Operator) (settings : Settings) : List Error :=
  settings.problems ++ (Transform.operating schema.rules).flatMap fun rule =>
    ruleProblems .operator registry rule (rule.operators.map (·.name))

theorem Validation.problems_eq_nil_iff {schema : Schema} {registry : Registry Validator} {settings : Settings} :
    problems schema registry settings = [] ↔ settings.Valid ∧ ∀ rule ∈ schema.rules, rule.Addressed ∧
      ∀ spec ∈ rule.validators, isPresenceMarker spec.name = false → spec.name ∈ registry.keys := by
  rw [problems, List.append_eq_nil_iff, Settings.problems_eq_nil_iff, List.flatMap_eq_nil_iff]
  simp only [ruleProblems_eq_nil_iff, List.forall_mem_map, FieldRule.checks, List.mem_filter, Bool.not_eq_true',
    and_imp]

theorem Transform.problems_eq_nil_iff {schema : Schema} {registry : Registry Operator} {settings : Settings} :
    problems schema registry settings = [] ↔ settings.Valid ∧ ∀ rule ∈ schema.rules, rule.operators ≠ [] →
      rule.Addressed ∧ ∀ spec ∈ rule.operators, spec.name ∈ registry.keys := by
  rw [problems, List.append_eq_nil_iff, Settings.problems_eq_nil_iff, List.flatMap_eq_nil_iff]
  simp only [ruleProblems_eq_nil_iff, List.forall_mem_map, operating, List.mem_filter, Bool.not_eq_true',
    List.isEmpty_eq_false_iff, and_imp]

/-- Making an engine fails with the first of the problems. -/
theorem Validation.failure?_ofSchema (schema : Schema) (registry : Registry Validator) (settings : Settings) :
    failure? (ofSchema schema registry settings) = (problems schema registry settings).head? := by
  rw [ofSchema, problems, List.head?_append, ← Settings.failure?_check]
  refine failure?_bind fun _ hcheck => ?_
  rw [failure?_bind_pure]
  refine failure?_mapM fun rule _ => ?_
  refine failure?_ready (Settings.separator_ne_empty_of_check hcheck) .validator registry rule (·.name)
    (fun compiled hcompiled => ?_) ValidationRule.mk
  rw [(CompiledRule.compile_spec hcompiled).1]
  rfl

/-- Making an engine fails with the first of the problems. -/
theorem Transform.failure?_ofSchema (schema : Schema) (registry : Registry Operator) (settings : Settings) :
    failure? (ofSchema schema registry settings) = (problems schema registry settings).head? := by
  rw [ofSchema, problems, List.head?_append, ← Settings.failure?_check]
  refine failure?_bind fun _ hcheck => ?_
  rw [failure?_bind_pure]
  exact failure?_mapM fun rule _ => failure?_ready (Settings.separator_ne_empty_of_check hcheck) .operator registry
    rule (·.name) (fun _ _ => rfl) TransformRule.mk

namespace Transform

/-- Some call of the engine fails with the failure. -/
inductive FailsWith (engine : Transform) (failure : Error) : Prop
  | operate {data : Json} (h : (engine.operate data).result = .error failure)
  | object {data : Json} (h : (engine.operateObject data).result = .error failure)
  | rows {rows : List Json} (h : (engine.operateRows rows).result = .error failure)
  | apply {view : FlatView} (h : (engine.apply view).result.failure = some failure)

section Failure

variable {engine : Transform} {failure : Error}

theorem not_ofSetup_of_apply {view : FlatView} (h : (engine.apply view).result.failure = some failure) :
    ¬ failure.OfSetup := by
  obtain ⟨key, value, -, hfailure⟩ := exists_composed_eq_error h
  obtain ⟨step, -, complaint, rfl⟩ := operatorFailed_of_foldlM_eq_error hfailure
  rintro ⟨⟩

variable (hseparator : engine.settings.separator ≠ "")
include hseparator

theorem not_ofSetup_of_operateObject {data : Json} (h : (engine.operateObject data).result = .error failure) :
    ¬ failure.OfSetup := by
  cases data with
  | object members =>
    rw [result_operateObject] at h
    simp only at h
    split at h
    · next e hfailure =>
      cases h
      exact not_ofSetup_of_apply hfailure
    · rcases FlatView.deflate_error_cases hseparator h with ⟨_, rfl⟩ | ⟨_, rfl⟩ | ⟨_, _, rfl⟩ <;> rintro ⟨⟩
  | null | bool _ | number _ | string _ | array _ =>
    cases h
    rintro ⟨⟩

theorem not_ofSetup_of_operateRows {rows : List Json} (h : (engine.operateRows rows).result = .error failure) :
    ¬ failure.OfSetup := by
  rw [operateRows] at h
  split at h
  · cases h
    rintro ⟨⟩
  · rw [result_operateEach] at h
    obtain ⟨row, -, hrow⟩ := exists_of_mapM_eq_error h
    exact not_ofSetup_of_operateObject hseparator hrow

theorem FailsWith.not_ofSetup (h : engine.FailsWith failure) : ¬ failure.OfSetup := by
  cases h with
  | operate h =>
    unfold Transform.operate at h
    split at h
    · exact not_ofSetup_of_operateRows hseparator (map_eq_error_iff.1 h)
    · exact not_ofSetup_of_operateObject hseparator h
  | object h => exact not_ofSetup_of_operateObject hseparator h
  | rows h => exact not_ofSetup_of_operateRows hseparator h
  | apply h => exact not_ofSetup_of_apply h

end Failure

end Transform

/-- Engines are made whole or not at all. Data can be checked by a schema exactly if the settings are valid, no pattern
of a rule is empty and every validator but the markers is registered; it can be rewritten exactly if the same holds of
the rules with operators and of their operators. Otherwise the first of the problems is reported. An engine that has
been made has no fault of this kind any more: checking fails for the shape of the data alone, and rewriting for nothing
that lies in the settings, in a pattern or in a name. -/
theorem ofSchema_outcome (schema : Schema) (validators : Registry Validator) (operators : Registry Operator)
    (settings : Settings) :
    ((∃ engine, Validation.ofSchema schema validators settings = .ok engine) ↔
      settings.Valid ∧ ∀ rule ∈ schema.rules, rule.Addressed ∧
        ∀ spec ∈ rule.validators, isPresenceMarker spec.name = false → spec.name ∈ validators.keys) ∧
    (∀ failure, Validation.ofSchema schema validators settings = .error failure ↔
      (Validation.problems schema validators settings).head? = some failure) ∧
    ((∃ engine, Transform.ofSchema schema operators settings = .ok engine) ↔
      settings.Valid ∧ ∀ rule ∈ schema.rules, rule.operators ≠ [] → rule.Addressed ∧
        ∀ spec ∈ rule.operators, spec.name ∈ operators.keys) ∧
    (∀ failure, Transform.ofSchema schema operators settings = .error failure ↔
      (Transform.problems schema operators settings).head? = some failure) ∧
    (∀ engine, Validation.ofSchema schema validators settings = .ok engine →
      (∀ data, (∃ failure, (engine.validate data).result = .error failure) ↔
        ¬ ∃ documents, Documents data documents) ∧
      ∀ outcome failure, engine.Gives outcome → outcome.result = .error failure →
        outcome.calls = [] ∧ ∃ kind, failure = .invalidShape kind) ∧
    ∀ engine, Transform.ofSchema schema operators settings = .ok engine →
      ∀ failure, engine.FailsWith failure → ¬ failure.OfSetup := by
  refine ⟨?_, ?_, ?_, ?_, ?_, ?_⟩
  · rw [← failure?_eq_none_iff, Validation.failure?_ofSchema, List.head?_eq_none_iff,
      Validation.problems_eq_nil_iff]
  · intro failure
    rw [← failure?_eq_some_iff, Validation.failure?_ofSchema]
  · rw [← failure?_eq_none_iff, Transform.failure?_ofSchema, List.head?_eq_none_iff, Transform.problems_eq_nil_iff]
  · intro failure
    rw [← failure?_eq_some_iff, Transform.failure?_ofSchema]
  · exact fun engine _ => ⟨fun data => Validation.exists_result_validate_eq_error_iff,
      fun outcome failure h => h.of_error⟩
  · intro engine hengine failure h
    refine h.not_ofSetup ?_
    rw [Transform.settings_eq hengine]
    exact Transform.separator_ne_empty hengine

/-- A marker need not be registered, and a rule without operators keeps no data from being rewritten. -/
theorem ofSchema_outcome_partial :
    let validators : Registry Validator := .ofList [("IsString", fun _ _ => .ok ())]
    let operators : Registry Operator := .ofList [("keep", fun _ _ => .ok none)]
    let sound : FieldRule :=
      { target := "a", validators := [{ name := "Must-Have" }, { name := "IsString" }],
        operators := [{ name := "keep" }] }
    let faulty : FieldRule := { target := "b", dependencies := ["c", ""], validators := [{ name := "missing" }] }
    Validation.problems { rules := [sound, faulty] } validators {} =
      [.invalidPattern "" .emptyPattern, .unknownFunction .validator "missing" "b"] ∧
    Validation.ofSchema { rules := [sound, faulty] } validators {} = .error (.invalidPattern "" .emptyPattern) ∧
    (∃ engine, Transform.ofSchema { rules := [sound, faulty] } operators {} = .ok engine ∧
      engine.FailsWith (.invalidShape .null) ∧ ¬ (Error.invalidShape .null).OfSetup) ∧
    ∃ engine, Validation.ofSchema { rules := [sound] } validators {} = .ok engine ∧
      ∃ failure, (engine.validate (.array [.object [], .null])).result = .error failure := by
  intro validators operators sound faulty
  obtain ⟨-, hproblem, hrewriting, -, -, hfailures⟩ :=
    ofSchema_outcome { rules := [sound, faulty] } validators operators {}
  obtain ⟨hchecking, -, -, -, hshape, -⟩ := ofSchema_outcome { rules := [sound] } validators operators {}
  have hvalid : ({} : Settings).Valid := ⟨by decide, ⟨'e', by decide, by decide⟩, by decide⟩
  have hproblems : Validation.problems { rules := [sound, faulty] } validators {} =
      [.invalidPattern "" .emptyPattern, .unknownFunction .validator "missing" "b"] := by decide
  obtain ⟨rewriting, hmade⟩ := hrewriting.2 ⟨hvalid, by
    simpa [sound, faulty] using ⟨⟨by decide, by decide⟩, by decide⟩⟩
  have hnull : (rewriting.operate .null).result = .error (.invalidShape .null) := rfl
  have hfails : rewriting.FailsWith (.invalidShape .null) := .operate hnull
  obtain ⟨checking, hready⟩ := hchecking.2 ⟨hvalid, by
    simpa [sound] using ⟨⟨by decide, by decide⟩, by decide, by decide⟩⟩
  refine ⟨hproblems, (hproblem _).2 (by rw [hproblems]; rfl), ⟨rewriting, hmade, hfails, hfailures _ hmade _ hfails⟩,
    checking, hready, ((hshape _ hready).1 _).2 ?_⟩
  rintro ⟨documents, _ | hobjects⟩
  simp [Json.kind] at hobjects

end Engine

end FieldRules
