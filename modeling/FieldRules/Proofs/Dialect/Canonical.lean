import FieldRules.Proofs.Dialect.Rule

/-!
What a dialect accepts is in a normal form, and the canonical form of a schema in normal form is a document of
the second version that stands for the same schema.
-/

namespace FieldRules.Dialect

open Json.Decode

theorem mapM_build_eq_ok_iff {rules built : List FieldRule} :
    rules.mapM FieldRule.build = .ok built ↔
      (∀ rule ∈ rules, rule.Addressed) ∧ rules.map FieldRule.absorbMarkers = built := by
  rw [mapM_eq_ok_iff]
  simp only [FieldRule.build_eq_ok_iff, List.forall₂_and_left]
  rw [← List.forall₂_map_left_iff (f := FieldRule.absorbMarkers) (R := Eq), List.forall₂_eq_eq_eq]

theorem decode_eq_ok_iff {dialect : Dialect} {raw : Json} {schema : Schema} :
    decode dialect raw = .ok schema ↔
      raw.kind = .object ∧ ∃ rules, rulesMember dialect.rules raw = .ok rules ∧
        (∀ rule ∈ rules, rule.Addressed) ∧
        schema = { version := dialect.keptTag raw, rules := rules.map FieldRule.absorbMarkers } := by
  rw [decode]
  cases hkind : raw.kind with
  | object =>
    cases hrules : rulesMember dialect.rules raw with
    | error fault => simp
    | ok rules =>
      cases hbuilt : rules.mapM FieldRule.build with
      | error failure =>
        have hnot : ¬ ∀ rule ∈ rules, rule.Addressed := by
          intro haddressed
          cases hbuilt.symm.trans (mapM_build_eq_ok_iff.2 ⟨haddressed, rfl⟩)
        simpa [hbuilt] using fun haddressed => absurd haddressed hnot
      | ok built =>
        obtain ⟨haddressed, rfl⟩ := mapM_build_eq_ok_iff.1 hbuilt
        simpa [hbuilt, eq_comm] using fun _ => haddressed
  | _ => simp

/-- A document that holds rules and a tag stands for the rules without their markers, under the tag. -/
theorem decode_eq_ok {dialect : Dialect} {fields : Json} {rules : List FieldRule} (tag : String)
    (hrules : dialect.rules fields = .ok rules) (haddressed : ∀ rule ∈ rules, rule.Addressed) :
    decode dialect (.object [("version", .string tag), ("fields", fields)]) =
      .ok { version := tag, rules := rules.map FieldRule.absorbMarkers } :=
  decode_eq_ok_iff.2 ⟨rfl, rules, hrules, haddressed, rfl⟩

section Reading

theorem componentOfJson_toJson {spec : ValidatorSpec} (herror : spec.error ≠ some "") :
    componentOfJson spec.toJson = .ok spec := by
  have hname : Says "name" text "" [("name", .string spec.name)] spec.name := .told rfl
  refine record_object_eq_ok ?_ (by simp [Field.required, Field.given, Assoc.keys])
  simp only [List.append_assoc]
  refine hname.members_append_eq_ok (by rfl) rfl ?_
  refine (says_attributes spec.attributes).members_append_eq_ok (by rfl) rfl ?_
  refine (says_textMember spec.error).members_append_eq_ok (by rfl) rfl ?_
  refine Eq.trans ((says_localized spec.localized).members_eq_ok (by rfl) rfl) ?_
  simp only [nonEmpty_eq_self herror]

theorem listedOperators_map_toJson (specs : List OperatorSpec) :
    listedOperators (.array (specs.map OperatorSpec.toJson)) = .ok specs := by
  have hread (spec : OperatorSpec) : componentOfJson spec.toJson =
      .ok { name := spec.name, attributes := spec.attributes } := by
    -- An operator's form is that of a validator with no messages.
    have hsilent : Json.textMember "error" none ++ Json.mapMember "l10n" (Localized.toJson {}) = [] := rfl
    rw [← componentOfJson_toJson (by simp)]
    simp [ValidatorSpec.toJson, OperatorSpec.toJson, hsilent]
  refine map_eq_ok_iff.2 ⟨_, list_map_eq_ok fun spec _ => hread spec, ?_⟩
  simp [Function.comp_def]

theorem rulesV2_map_toJson {rules : List FieldRule} (hfilled : ∀ rule ∈ rules, rule.Filled) :
    rulesV2 (.array (rules.map FieldRule.toJson)) = .ok rules := by
  refine list_map_eq_ok_self fun rule hrule => ?_
  rw [rule.toJson_eq]
  exact ruleOfJson_eq_ok (hfilled rule hrule) (.inl rfl) (.told rfl)
    (says_listMember rfl (list_map_eq_ok_self fun spec hspec =>
      componentOfJson_toJson ((hfilled rule hrule).errors spec hspec)))
    (says_listMember rfl (listedOperators_map_toJson rule.operators))

end Reading

section Normal

theorem error_ne_of_componentOfJson {v : Json} {spec : ValidatorSpec} (h : componentOfJson v = .ok spec) :
    spec.error ≠ some "" := by
  refine @Keeps.record _ (fun spec => spec.error ≠ some "") _ _ _ ?_ _ _ h nofun
  simp only [List.forall_mem_cons]
  exact ⟨keeps_required fun _ _ _ _ h => h, keeps_given fun _ _ _ _ h => h,
    keeps_given fun _ error _ _ _ => nonEmpty_ne error, keeps_given fun _ _ _ _ h => h, nofun⟩

theorem error_ne_of_keyedValidators {v : Json} {specs : List ValidatorSpec} (h : keyedValidators v = .ok specs) :
    ∀ spec ∈ specs, spec.error ≠ some "" := by
  obtain ⟨components, -, rfl⟩ := map_eq_ok_iff.1 h
  rw [List.forall_mem_map]
  exact fun entry _ => nonEmpty_ne entry.2.error

theorem filled_of_ruleOfJson {required : String} {target : Json.Decoder String}
    {validators : Json.Decoder (List ValidatorSpec)} {operators : Json.Decoder (List OperatorSpec)}
    (hvalidators : ∀ v specs, validators v = .ok specs → ∀ spec ∈ specs, spec.error ≠ some "")
    {v : Json} {rule : FieldRule}
    (h : ruleOfJson (ruleFields required target validators operators) v = .ok rule) : rule.Filled := by
  obtain ⟨held, hheld, h⟩ := bind_eq_ok_iff.1 h
  have hstart : ({ target := "" } : FieldRule).Filled :=
    ⟨List.forall_mem_nil _, by simp, by simp, by simp⟩
  have hfilled : held.Filled := by
    refine Keeps.object ?_ hheld hstart
    simp only [ruleFields, List.forall_mem_cons]
    exact ⟨keeps_given fun _ _ _ _ h => ⟨h.errors, h.name, h.displayName, h.description⟩,
      keeps_given fun _ _ _ _ h => ⟨h.errors, h.name, h.displayName, h.description⟩,
      keeps_given fun _ _ _ _ h => ⟨h.errors, h.name, h.displayName, h.description⟩,
      keeps_given fun v specs _ hspecs h => ⟨hvalidators v specs hspecs, h.name, h.displayName, h.description⟩,
      keeps_given fun _ _ _ _ h => ⟨h.errors, h.name, h.displayName, h.description⟩,
      keeps_given fun _ _ _ _ h => ⟨h.errors, h.name, h.displayName, h.description⟩,
      List.forall_mem_nil _⟩
  cases v with
  | object given =>
    refine Keeps.members ?_ h hfilled
    simp only [descriptive, List.forall_mem_cons]
    exact ⟨keeps_given fun _ s _ _ h => ⟨h.errors, nonEmpty_ne s, h.displayName, h.description⟩,
      keeps_given fun _ s _ _ h => ⟨h.errors, h.name, nonEmpty_ne s, h.description⟩,
      keeps_given fun _ s _ _ h => ⟨h.errors, h.name, h.displayName, nonEmpty_ne s⟩,
      keeps_given fun _ _ _ _ h => ⟨h.errors, h.name, h.displayName, h.description⟩,
      List.forall_mem_nil _⟩
  | _ => cases hheld

theorem filled_toRule (rule : LegacyRule) : rule.toRule.Filled := by
  refine ⟨?_, nofun, nofun, nonEmpty_ne rule.description⟩
  rw [LegacyRule.toRule, List.forall_mem_map]
  intro name _
  cases rule.constants.get? name with
  | none => nofun
  | some constant => exact nonEmpty_ne constant.err

/-- Whatever the dialect, no text that may be absent is read as empty. -/
theorem filled_of_rules {dialect : Dialect} {v : Json} {rules : List FieldRule} (h : dialect.rules v = .ok rules)
    {rule : FieldRule} (hrule : rule ∈ rules) : rule.Filled := by
  cases dialect with
  | v0 =>
    obtain ⟨keyed, hkeyed, rfl⟩ := map_eq_ok_iff.1 h
    obtain ⟨entry, hentry, rfl⟩ := List.mem_map.1 hrule
    obtain ⟨item, hitem⟩ := exists_read_of_mem_table hkeyed hentry
    have hfilled := filled_of_ruleOfJson (fun _ _ => error_ne_of_keyedValidators) hitem
    dsimp only
    split
    · exact ⟨hfilled.errors, hfilled.name, hfilled.displayName, hfilled.description⟩
    · exact hfilled
  | v1 =>
    obtain ⟨item, hitem⟩ := exists_read_of_mem_list h hrule
    exact filled_of_ruleOfJson (fun _ _ => error_ne_of_keyedValidators) hitem
  | v2 =>
    obtain ⟨item, hitem⟩ := exists_read_of_mem_list h hrule
    refine filled_of_ruleOfJson (fun _ _ hspecs spec hspec => ?_) hitem
    obtain ⟨component, hcomponent⟩ := exists_read_of_mem_list hspecs hspec
    exact error_ne_of_componentOfJson hcomponent
  | legacy =>
    obtain ⟨legacyRules, -, rfl⟩ := map_eq_ok_iff.1 h
    obtain ⟨legacyRule, -, rfl⟩ := List.mem_map.1 hrule
    exact filled_toRule legacyRule

/-- The rules of a schema that a dialect accepts are in normal form. -/
theorem normal_of_decode {dialect : Dialect} {raw : Json} {schema : Schema}
    (h : decode dialect raw = .ok schema) : ∀ rule ∈ schema.rules, rule.Normal := by
  obtain ⟨-, rules, hrules, haddressed, rfl⟩ := decode_eq_ok_iff.1 h
  rw [List.forall_mem_map]
  intro rule hrule
  have hfilled : rule.Filled := by
    rw [rulesMember] at hrules
    split at hrules
    · exact filled_of_rules hrules hrule
    · cases hrules
      cases hrule
  exact ⟨hfilled.absorbMarkers, (haddressed rule hrule).absorbMarkers, rule.unmarked_absorbMarkers⟩

end Normal

/-- The canonical form of a schema in normal form is a document of the second version. -/
theorem decode_v2_toJson {schema : Schema} (h : ∀ rule ∈ schema.rules, rule.Normal) :
    decode .v2 schema.toJson = .ok schema := by
  have hread := @decode_eq_ok .v2 _ _ schema.version
    (rulesV2_map_toJson fun rule hrule => (h rule hrule).filled) fun rule hrule => (h rule hrule).addressed
  have hself : schema.rules.map FieldRule.absorbMarkers = schema.rules := by
    rw [List.map_congr_left fun rule hrule => (h rule hrule).unmarked.absorbMarkers_eq, List.map_id']
  rw [hself] at hread
  exact hread

/-- A schema that any dialect accepts has no empty pattern and no marker, and its canonical form is accepted as
a document of the second version that stands for the same schema. -/
theorem decode_canonical {dialect : Dialect} {raw : Json} {schema : Schema} (h : decode dialect raw = .ok schema) :
    (∀ rule ∈ schema.rules, rule.target ≠ "" ∧ (∀ pattern ∈ rule.dependencies, pattern ≠ "") ∧
      ∀ spec ∈ rule.validators, isPresenceMarker spec.name = false) ∧
    decode .v2 schema.toJson = .ok schema := by
  have hnormal := normal_of_decode h
  refine ⟨fun rule hrule => ?_, decode_v2_toJson hnormal⟩
  obtain ⟨-, haddressed, hunmarked⟩ := hnormal rule hrule
  exact ⟨haddressed.target, haddressed.dependencies, hunmarked⟩

/-- Markers, empty texts and additional information that is no text are gone behind the first reading. -/
theorem decode_canonical_keyed :
    let raw : Json := .object [("version", .number (.whole 0 (by decide))), ("fields", .object [
      ("alias", .object [("additional_information", .object [("unit", .array [.string "m"])]),
        ("target_key", .string "size.*"), ("name", .string ""),
        ("validators", .object [("Must-Have", .array []), ("IsNumber", .object [("error", .string "")])])])])]
    ∃ schema, decode .v0 raw = .ok schema ∧
      (∀ rule ∈ schema.rules, rule.target ≠ "" ∧ (∀ pattern ∈ rule.dependencies, pattern ≠ "") ∧
        ∀ spec ∈ rule.validators, isPresenceMarker spec.name = false) ∧
      decode .v2 schema.toJson = .ok schema ∧
      schema = { version := "0", rules := [{
        target := "size.*"
        required := true
        validators := [{ name := "IsNumber" }]
        additionalInformation := some "\x7b\"unit\":[\"m\"]\x7d" }] } := by
  intro raw
  have hdecode : decode .v0 raw = .ok { version := "0", rules := [{
      target := "size.*"
      required := true
      validators := [{ name := "IsNumber" }]
      additionalInformation := some "\x7b\"unit\":[\"m\"]\x7d" }] } := by
    rfl
  obtain ⟨hrules, hcanonical⟩ := decode_canonical hdecode
  exact ⟨_, hdecode, hrules, hcanonical, rfl⟩

end FieldRules.Dialect
