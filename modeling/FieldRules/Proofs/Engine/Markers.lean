import FieldRules.Proofs.Engine.Setup

/-!
Presence markers. A marker in a chain says that its rule is required and nothing else: the engine of a schema is that
of the schema in which the markers have been absorbed, and no function is looked up or called under the name of one.
-/

namespace FieldRules

/-- What a marker says, but for case, hyphens and underscores. -/
def markerWords : List String := ["required", "isrequired", "exist", "musthave"]

/-- Letters and a text that holds them in order, each in any case, with hyphens and underscores anywhere. -/
inductive LooselySpells : List Char → List Char → Prop
  | nil : LooselySpells [] []
  | mark {c : Char} {letters text : List Char} (hmark : c = '-' ∨ c = '_') (hrest : LooselySpells letters text) :
      LooselySpells letters (c :: text)
  | letter {c letter : Char} {letters text : List Char} (hletter : c ≠ '-' ∧ c ≠ '_')
      (hcase : Text.lowerChar c = [letter]) (hrest : LooselySpells letters text) :
      LooselySpells (letter :: letters) (c :: text)

theorem Text.lowerChar_cases (c : Char) :
    lowerChar c = ['i', Char.ofNat 0x307] ∨ ∃ letter, lowerChar c = [letter] := by
  rw [lowerChar]
  split
  · exact .inl rfl
  · split <;> exact .inr ⟨_, rfl⟩

/-- The two characters of the dotted capital I cannot be had otherwise, so they are kept out. -/
theorem flatMap_lowerChar_eq_iff {letters text : List Char} (hdot : Char.ofNat 0x307 ∉ letters) :
    (text.filter fun c => c != '-' && c != '_').flatMap Text.lowerChar = letters ↔ LooselySpells letters text := by
  induction text generalizing letters with
  | nil =>
    constructor
    · rintro rfl
      exact .nil
    · rintro ⟨⟩
      rfl
  | cons c text ih =>
    by_cases hmark : c = '-' ∨ c = '_'
    · rw [List.filter_cons_of_neg (by simpa [or_iff_not_imp_left] using hmark), ih hdot]
      constructor
      · exact .mark hmark
      · rintro (_ | ⟨-, hrest⟩ | ⟨hletter, -, -⟩)
        · exact hrest
        · exact absurd hmark (not_or.2 hletter)
    · have hletter := not_or.1 hmark
      rw [List.filter_cons_of_pos (by simpa using hletter), List.flatMap_cons]
      rcases Text.lowerChar_cases c with hdotted | ⟨letter, hcase⟩
      · rw [hdotted]
        constructor
        · rintro rfl
          simp at hdot
        · rintro (_ | ⟨hc, -⟩ | ⟨-, hcase, -⟩)
          · exact absurd hc hmark
          · cases hdotted.symm.trans hcase
      · rw [hcase, List.singleton_append]
        constructor
        · rintro rfl
          exact .letter hletter hcase ((ih (List.not_mem_of_not_mem_cons hdot)).1 rfl)
        · rintro (_ | ⟨hc, -⟩ | ⟨-, hcase', hrest⟩)
          · exact absurd hc hmark
          · cases hcase.symm.trans hcase'
            rw [(ih (List.not_mem_of_not_mem_cons hdot)).2 hrest]

theorem isPresenceMarker_iff {name : String} :
    isPresenceMarker name = true ↔ ∃ word ∈ markerWords, LooselySpells word.toList name.toList := by
  have hdot : ∀ word ∈ markerWords, Char.ofNat 0x307 ∉ word.toList := by decide
  rw [isPresenceMarker, List.contains_iff_mem, ← markerWords]
  constructor
  · intro hmem
    refine ⟨_, hmem, (flatMap_lowerChar_eq_iff (hdot _ hmem)).1 ?_⟩
    rw [String.toList_ofList]
  · rintro ⟨word, hword, hspells⟩
    rwa [(flatMap_lowerChar_eq_iff (hdot word hword)).2 hspells, String.ofList_toList]

/-- What absorbing markers makes of a rule. -/
structure FieldRule.Absorbs (rule absorbed : FieldRule) : Prop where
  validators : absorbed.validators = rule.checks
  required : absorbed.required = true ↔
    rule.required = true ∨ ∃ spec ∈ rule.validators, isPresenceMarker spec.name = true
  /-- Nothing else in the rule is touched. -/
  others : { absorbed with required := rule.required, validators := rule.validators } = rule

theorem FieldRule.absorbs_absorbMarkers (rule : FieldRule) : rule.Absorbs rule.absorbMarkers :=
  ⟨rfl, by simp [absorbMarkers], rfl⟩

@[simp] theorem FieldRule.absorbMarkers_absorbMarkers (rule : FieldRule) :
    rule.absorbMarkers.absorbMarkers = rule.absorbMarkers :=
  rule.unmarked_absorbMarkers.absorbMarkers_eq

@[simp] theorem Schema.absorbMarkers_absorbMarkers (schema : Schema) :
    schema.absorbMarkers.absorbMarkers = schema.absorbMarkers := by
  simp [absorbMarkers]

namespace Engine

theorem CompiledRule.compile_absorbMarkers (rule : FieldRule) (separator : String) :
    compile rule.absorbMarkers separator = compile rule separator := by
  rw [compile, compile, FieldRule.absorbMarkers_absorbMarkers]

theorem resolve_congr {Spec Function : Type} {role : Role} {registry other : Registry Function} {target : String}
    {name : Spec → String} {specs : List Spec}
    (h : ∀ spec ∈ specs, other.get? (name spec) = registry.get? (name spec)) :
    resolve role other target name specs = resolve role registry target name specs := by
  rw [resolve, resolve]
  induction specs with
  | nil => rfl
  | cons spec rest ih =>
    obtain ⟨hfirst, hrest⟩ := List.forall_mem_cons.1 h
    rw [List.mapM_cons, List.mapM_cons, hfirst, ih hrest]

namespace Validation

section Setup

variable {schema : Schema} {registry other : Registry Validator} {settings : Settings}

theorem ofSchema_absorbMarkers :
    ofSchema schema.absorbMarkers registry settings = ofSchema schema registry settings := by
  rw [ofSchema, ofSchema, Schema.absorbMarkers, List.mapM_map]
  simp only [Function.comp_def, CompiledRule.compile_absorbMarkers]
  rfl

/-- Compiling takes the markers away, so that no name of one is left to be looked up. -/
theorem ofSchema_congr (h : ∀ name, isPresenceMarker name = false → other.get? name = registry.get? name) :
    ofSchema schema other settings = ofSchema schema registry settings := by
  rw [ofSchema, ofSchema]
  refine bind_congr_of_ok fun _ _ => ?_
  congr 1
  refine congrArg (fun ready => schema.rules.mapM ready) (funext fun rule => ?_)
  have hresolve : resolve .validator other rule.target (·.name) rule.absorbMarkers.validators =
      resolve .validator registry rule.target (·.name) rule.absorbMarkers.validators :=
    resolve_congr fun spec hspec => h spec.name (rule.unmarked_absorbMarkers spec hspec)
  refine bind_congr_of_ok fun compiled hcompiled => ?_
  rw [(CompiledRule.compile_spec hcompiled).1, hresolve]

theorem isPresenceMarker_of_mem_problems {role : Role} {name target : String}
    (h : .unknownFunction role name target ∈ problems schema registry settings) : isPresenceMarker name = false := by
  rw [problems, List.mem_append] at h
  rcases h with hsettings | hrule
  · simp [Settings.problems] at hsettings
  · obtain ⟨rule, -, hrule⟩ := List.mem_flatMap.1 hrule
    rcases List.mem_append.1 hrule with hpattern | hname
    · obtain ⟨text, -, htext⟩ := List.mem_flatMap.1 hpattern
      simp [Pattern.problems] at htext
    · obtain ⟨used, hused, hname⟩ := List.mem_flatMap.1 hname
      obtain ⟨spec, hspec, rfl⟩ := List.mem_map.1 hused
      obtain ⟨-, -, rfl, -⟩ : _ ∧ role = .validator ∧ name = spec.name ∧ target = rule.target := by
        simpa [nameProblems] using hname
      exact rule.unmarked_absorbMarkers spec hspec

end Setup

section Calls

variable {registry : Registry Validator} {settings : Settings} {rule : FieldRule} {traced : Traced (List Record)}
  {call : Call}

theorem ValueBlock.exists_check {locale key : String} {value : Json}
    (h : ValueBlock registry locale rule key value traced) (hcall : call ∈ traced.calls) :
    ∃ spec ∈ rule.checks, spec.name = call.name := by
  cases h with
  | accepted =>
    obtain ⟨spec, hspec, rfl⟩ := List.mem_map.1 hcall
    exact ⟨spec, hspec, rfl⟩
  | @refused before after refusing _ hchecks =>
    obtain ⟨spec, hspec, rfl⟩ := List.mem_map.1 hcall
    refine ⟨spec, ?_, rfl⟩
    rw [hchecks, ← List.singleton_append, ← List.append_assoc]
    exact List.mem_append_left _ hspec

/-- A function is called only if the rule uses it, and then not as a marker. -/
theorem RuleBlock.exists_check {view : FlatView} (h : RuleBlock registry settings view rule traced)
    (hcall : call ∈ traced.calls) : ∃ spec ∈ rule.checks, spec.name = call.name := by
  cases h with
  | absent | dependency => cases hcall
  | checked _ _ hparts =>
    obtain ⟨part, hpart, hcall⟩ := List.mem_flatMap.1 hcall
    obtain ⟨entry, -, hvalue⟩ := exists_left_of_forall₂ hparts hpart
    exact hvalue.exists_check hcall

theorem Covers.isPresenceMarker_of_mem_calls {schema : Schema} {engine : Validation} {found : Traced Report}
    {filed : List (Json × Option Json)} (hengine : ofSchema schema registry settings = .ok engine)
    (h : engine.Covers found filed) (hcall : call ∈ found.calls) : isPresenceMarker call.name = false := by
  obtain ⟨rfl, hrules⟩ := ofSchema_spec hengine
  rw [h.calls] at hcall
  obtain ⟨entry, -, hcall⟩ := List.mem_flatMap.1 hcall
  obtain ⟨found, hfound, hcall⟩ := List.mem_flatMap.1 hcall
  obtain ⟨ready, hready, rfl⟩ := List.mem_map.1 hfound
  obtain ⟨rule, -, hreadies⟩ := exists_left_of_forall₂ hrules hready
  obtain ⟨spec, hspec, hname⟩ := (hreadies.block_spec _).exists_check hcall
  rw [← hname]
  exact rule.unmarked_absorbMarkers spec hspec

theorem Gives.isPresenceMarker_of_mem_calls {schema : Schema} {engine : Validation}
    {outcome : Traced (Except Error Report)} (hengine : ofSchema schema registry settings = .ok engine)
    (h : engine.Gives outcome) (hcall : call ∈ outcome.calls) : isPresenceMarker call.name = false := by
  rcases h.covers_or_refused with ⟨found, filed, rfl, hcovers⟩ | ⟨kind, rfl⟩
  · exact hcovers.isPresenceMarker_of_mem_calls hengine hcall
  · cases hcall

end Calls

/-- Markers are the same as `required`, wherever they stand. A schema and the schema with its markers absorbed have the
same engine, or cannot have one for the same fault; no name of a marker is looked up, be a function registered under it
or not, and none is reported or called. Absorbing sets `required` and keeps the other validators in order, changes
nothing else, and changes nothing the second time. -/
theorem ofSchema_markers (schema : Schema) (registry : Registry Validator) (settings : Settings) :
    ofSchema schema.absorbMarkers registry settings = ofSchema schema registry settings ∧
    (∀ other : Registry Validator, (∀ name, isPresenceMarker name = false → other.get? name = registry.get? name) →
      ofSchema schema other settings = ofSchema schema registry settings) ∧
    (∀ role name target, ofSchema schema registry settings = .error (.unknownFunction role name target) →
      isPresenceMarker name = false) ∧
    (∀ engine outcome, ofSchema schema registry settings = .ok engine → engine.Gives outcome →
      ∀ call ∈ outcome.calls, isPresenceMarker call.name = false) ∧
    (schema.absorbMarkers.version = schema.version ∧
      List.Forall₂ FieldRule.Absorbs schema.rules schema.absorbMarkers.rules) ∧
    schema.absorbMarkers.absorbMarkers = schema.absorbMarkers ∧
    ∀ name, isPresenceMarker name = true ↔ ∃ word ∈ markerWords, LooselySpells word.toList name.toList := by
  refine ⟨ofSchema_absorbMarkers, fun other h => ofSchema_congr h, fun role name target h => ?_,
    fun engine outcome hengine h call hcall => h.isPresenceMarker_of_mem_calls hengine hcall, ⟨rfl, ?_⟩,
    schema.absorbMarkers_absorbMarkers, fun name => isPresenceMarker_iff⟩
  · rw [← failure?_eq_some_iff, failure?_ofSchema] at h
    exact isPresenceMarker_of_mem_problems (List.mem_of_head? h)
  · rw [Schema.absorbMarkers, List.forall₂_map_right_iff, List.forall₂_same]
    exact fun rule _ => rule.absorbs_absorbMarkers

/-- A marker in the middle of a chain, under whose name a function is registered that refuses everything. -/
theorem ofSchema_markers_registered :
    let plain : Registry Validator :=
      .ofList [("always", fun _ _ => .ok ()), ("never", fun _ _ => .error "refused")]
    let registry := plain.insert "Must-Have" fun _ _ => .error "called"
    let schema : Schema := { rules := [
      { target := "a", validators := [{ name := "always" }, { name := "Must-Have" }, { name := "never" }] },
      { target := "b", validators := [{ name := "__EXIST" }, { name := "always" }] }] }
    let misspelled : Schema := { rules := [
      { target := "a", validators := [{ name := "is_required" }, { name := "Exists" }] }] }
    (ofSchema schema.absorbMarkers registry {} = ofSchema schema registry {} ∧
      ofSchema schema registry {} = ofSchema schema plain {}) ∧
    (∃ engine found, ofSchema schema registry {} = .ok engine ∧
      engine.validate (.object [("a", .null)]) = .ok found ∧
      (∀ call ∈ found.calls, isPresenceMarker call.name = false) ∧
      found.calls = [⟨"always", .null⟩, ⟨"never", .null⟩] ∧
      found.result.records.toList.map (fun r => (r.target, r.validator)) = [("a", "never"), ("b", "is-required")]) ∧
    ofSchema misspelled registry {} = .error (.unknownFunction .validator "Exists" "a") ∧
      isPresenceMarker "Exists" = false := by
  intro plain registry schema misspelled
  obtain ⟨habsorbed, -⟩ := ofSchema_markers schema registry {}
  obtain ⟨-, hcongr, -⟩ := ofSchema_markers schema plain {}
  obtain ⟨-, -, hreported, -⟩ := ofSchema_markers misspelled registry {}
  obtain ⟨-, -, -, hcalled, -⟩ := ofSchema_markers schema registry {}
  have hplain : ∀ name, isPresenceMarker name = false → registry.get? name = plain.get? name := by
    intro name hname
    have hother : "Must-Have" ≠ name := by
      rintro rfl
      exact absurd hname (by decide)
    rw [OrderedMap.get?_insert, if_neg hother]
  obtain ⟨engine, hengine⟩ : ∃ engine, ofSchema schema registry {} = .ok engine := ⟨_, rfl⟩
  obtain ⟨found, hfound⟩ : ∃ found, engine.validate (.object [("a", .null)]) = .ok found := ⟨_, rfl⟩
  have hunknown : ofSchema misspelled registry {} = .error (.unknownFunction .validator "Exists" "a") := rfl
  refine ⟨⟨habsorbed, hcongr registry hplain⟩, ⟨engine, found, hengine, hfound,
    hcalled engine _ hengine (.validate hfound), ?_, ?_⟩, hunknown, hreported _ _ _ hunknown⟩
  all_goals
    cases hengine
    obtain rfl := Traced.ok_inj.1 hfound
    rfl

end Validation

end Engine

end FieldRules
