import FieldRules.Proofs.Dialect.Canonical
import Mathlib.Data.List.Nodup

/-!
Rules as each dialect writes them. What a dialect writes is read as the rules that were written, so the dialects
agree on all rules that they can write.
-/

namespace FieldRules

open Json.Decode

/-- No chain of the rule names a function twice. -/
structure FieldRule.Keyed (rule : FieldRule) : Prop where
  validators : (rule.validators.map (·.name)).Nodup
  operators : (rule.operators.map (·.name)).Nodup

/-- The rule has nothing that the legacy dialect has no place for, and no validator of it takes the place that
the table of arguments has for an operator. -/
structure FieldRule.FitsLegacy (rule : FieldRule) : Prop where
  localized : rule.localized = {}
  localizedValidators : ∀ spec ∈ rule.validators, spec.localized = {}
  name : rule.name = none
  displayName : rule.displayName = none
  additionalInformation : rule.additionalInformation = none
  apart : ∀ spec ∈ rule.operators, "_" ++ spec.name ∉ rule.validators.map (·.name)

namespace Dialect

/-- A validator where functions are keyed by name. -/
def writeKeyedValidator (spec : ValidatorSpec) : Json :=
  .object (Json.mapMember "attributes" spec.attributes
    ++ Json.textMember "error" spec.error
    ++ Json.mapMember "l10n" (Localized.toJson spec.localized))

/-- An operator where functions are keyed by name. -/
def writeKeyedOperator (spec : OperatorSpec) : Json :=
  .object (Json.mapMember "attributes" spec.attributes)

/-- The members of a rule, with its functions keyed by name, but for its pattern. -/
def keyedMembers (required : String) (rule : FieldRule) : List (String × Json) :=
  rule.heldMembers required
      (objectMember "validators" (rule.validators.map fun spec => (spec.name, writeKeyedValidator spec)))
      (objectMember "operators" (rule.operators.map fun spec => (spec.name, writeKeyedOperator spec)))
    ++ rule.describingMembers

/-- The entry of a validator in the table of arguments. -/
def validatorConstant (spec : ValidatorSpec) : String × Constant :=
  (spec.name, { attributes := spec.attributes, err := spec.error })

/-- The entry of an operator in the table of arguments. -/
def operatorConstant (spec : OperatorSpec) : String × Constant :=
  ("_" ++ spec.name, { attributes := spec.attributes })

/-- The table of arguments of a rule. Functions that have nothing to say there have no entry. -/
def constants (rule : FieldRule) : List (String × Constant) :=
  (rule.validators.map validatorConstant ++ rule.operators.map operatorConstant).filter fun entry =>
    !entry.2.attributes.isEmpty || entry.2.err.isSome

def writeConstant (constant : Constant) : Json :=
  .object (Json.mapMember "attributes" constant.attributes ++ Json.textMember "err" constant.err)

/-- The names of a rule's validators in the legacy dialect, which has a marker for required rules. -/
def legacyValidators (rule : FieldRule) : List String :=
  (if rule.required then ["Required"] else []) ++ rule.validators.map (·.name)

def writeLegacyRule (rule : FieldRule) : Json :=
  .object ([("target_key", .string rule.target)]
    ++ Json.listMember "depends_on" (rule.dependencies.map .string)
    ++ Json.textMember "description" rule.description
    ++ Json.listMember "validators" ((legacyValidators rule).map .string)
    ++ Json.listMember "operators" ((rule.operators.map (·.name)).map .string)
    ++ objectMember "constants" ((constants rule).map fun entry => (entry.1, writeConstant entry.2)))

/-- Rules as the dialect writes them. -/
def writeRules : Dialect → List FieldRule → Json
  | .v0, rules => .object (rules.map fun rule => (rule.target, .object (keyedMembers "is_required" rule)))
  | .v1, rules => .array (rules.map fun rule =>
      .object ([("target_key", .string rule.target)] ++ keyedMembers "required" rule))
  | .v2, rules => .array (rules.map FieldRule.toJson)
  | .legacy, rules => .array (rules.map writeLegacyRule)

/-- A document of the dialect. -/
def write (dialect : Dialect) (tag : String) (rules : List FieldRule) : Json :=
  .object [("version", .string tag), ("fields", dialect.writeRules rules)]

section Keyed

variable {rule : FieldRule}

theorem ofJson_writeKeyedValidator (spec : ValidatorSpec) :
    KeyedComponent.ofJson (writeKeyedValidator spec) =
      .ok { attributes := spec.attributes, error := spec.error, localized := spec.localized } := by
  refine record_object_eq_ok ?_ (by simp [Field.given])
  simp only [List.append_assoc]
  refine (says_attributes spec.attributes).members_append_eq_ok (by rfl) rfl ?_
  refine (says_textMember spec.error).members_append_eq_ok (by rfl) rfl ?_
  exact Eq.trans ((says_localized spec.localized).members_eq_ok (by rfl) rfl) rfl

theorem ofJson_writeKeyedOperator (spec : OperatorSpec) :
    KeyedComponent.ofJson (writeKeyedOperator spec) = .ok { attributes := spec.attributes } := by
  refine record_object_eq_ok ?_ (by simp [Field.given])
  exact Eq.trans ((says_attributes spec.attributes).members_eq_ok (by rfl) rfl) rfl

theorem keyedValidators_eq_ok (hfilled : rule.Filled) (hkeyed : rule.Keyed) :
    keyedValidators (.object (rule.validators.map fun spec => (spec.name, writeKeyedValidator spec))) =
      .ok rule.validators := by
  refine map_eq_ok_iff.2 ⟨_, table_map_eq_ok fun spec _ => ofJson_writeKeyedValidator spec, ?_⟩
  rw [OrderedMap.entries_ofList (by simpa [Assoc.keys, Function.comp_def] using hkeyed.validators),
    List.map_map]
  refine (List.map_congr_left fun spec hspec => ?_).trans (List.map_id _)
  simp only [Function.comp_apply, nonEmpty_eq_self (hfilled.errors spec hspec), id]

theorem keyedOperators_eq_ok (hkeyed : rule.Keyed) :
    keyedOperators (.object (rule.operators.map fun spec => (spec.name, writeKeyedOperator spec))) =
      .ok rule.operators := by
  refine map_eq_ok_iff.2 ⟨_, table_map_eq_ok fun spec _ => ofJson_writeKeyedOperator spec, ?_⟩
  rw [OrderedMap.entries_ofList (by simpa [Assoc.keys, Function.comp_def] using hkeyed.operators),
    List.map_map]
  exact List.map_id _

theorem rulesV1_writeRules {rules : List FieldRule} (hfilled : ∀ rule ∈ rules, rule.Filled)
    (hkeyed : ∀ rule ∈ rules, rule.Keyed) : rulesV1 (writeRules .v1 rules) = .ok rules := by
  refine list_map_eq_ok_self fun rule hrule => ?_
  rw [keyedMembers, ← List.append_assoc]
  exact ruleOfJson_eq_ok (hfilled rule hrule) (.inl rfl) (.told rfl)
    (says_objectMember rfl (keyedValidators_eq_ok (hfilled rule hrule) (hkeyed rule hrule)))
    (says_objectMember rfl (keyedOperators_eq_ok (hkeyed rule hrule)))

/-- The pattern of a rule is read from the rule's key. -/
theorem rulesV0_writeRules {rules : List FieldRule} (hfilled : ∀ rule ∈ rules, rule.Filled)
    (hkeyed : ∀ rule ∈ rules, rule.Keyed) (htargets : (rules.map (·.target)).Nodup) :
    rulesV0 (writeRules .v0 rules) = .ok rules := by
  -- What stands under a key is read as a rule without a pattern, which the key then fills in.
  refine map_eq_ok_iff.2 ⟨.ofList (rules.map fun rule => (rule.target, { rule with target := "" })),
    table_map_eq_ok fun rule hrule => ?_, ?_⟩
  · obtain ⟨herrors, hname, hdisplayName, hdescription⟩ := hfilled rule hrule
    exact @ruleOfJson_eq_ok _ _ _ _ { rule with target := "" } [] _ _
      ⟨herrors, hname, hdisplayName, hdescription⟩ (.inr rfl) .silent
      (says_objectMember rfl (keyedValidators_eq_ok (hfilled rule hrule) (hkeyed rule hrule)))
      (says_objectMember rfl (keyedOperators_eq_ok (hkeyed rule hrule)))
  · rw [OrderedMap.entries_ofList (by simpa [Assoc.keys, Function.comp_def] using htargets), List.map_map]
    exact List.map_id _

end Keyed

section Legacy

variable {rule : FieldRule}

theorem ofJson_writeConstant (constant : Constant) :
    Constant.ofJson (writeConstant constant) = .ok constant := by
  refine record_object_eq_ok ?_ (by simp [Field.given])
  refine (says_attributes constant.attributes).members_append_eq_ok (by rfl) rfl ?_
  exact Eq.trans ((says_textMember constant.err).members_eq_ok (by rfl) rfl) rfl

/-- A rule as it is read in the legacy dialect. -/
def legacyRule (rule : FieldRule) : LegacyRule where
  target := rule.target
  dependencies := rule.dependencies
  description := rule.description
  validators := legacyValidators rule
  operators := rule.operators.map (·.name)
  constants := .ofList (constants rule)

theorem ofJson_writeLegacyRule (rule : FieldRule) :
    LegacyRule.ofJson (writeLegacyRule rule) = .ok (legacyRule rule) := by
  have htarget : Says "target_key" text "" [("target_key", .string rule.target)] rule.target := .told rfl
  have hoperators := says_listMember_string "operators" (rule.operators.map (·.name))
  have hconstants : Says "constants" (table Constant.ofJson) {} _ (.ofList (constants rule)) :=
    says_objectMember rfl (table_map_entries_eq_ok fun entry _ => ofJson_writeConstant entry.2)
  refine record_object_eq_ok ?_ (by simp [Field.given])
  simp only [List.append_assoc]
  refine htarget.members_append_eq_ok (by rfl) rfl ?_
  refine (says_listMember_string "depends_on" rule.dependencies).members_append_eq_ok (by rfl) rfl ?_
  refine (says_textMember rule.description).members_append_eq_ok (by rfl) rfl ?_
  refine (says_listMember_string "validators" (legacyValidators rule)).members_append_eq_ok (by rfl) rfl ?_
  refine hoperators.members_append_eq_ok (by rfl) rfl ?_
  exact Eq.trans (hconstants.members_eq_ok (by rfl) rfl) rfl

theorem nodup_keys_constants (hkeyed : rule.Keyed) (hlegacy : rule.FitsLegacy) :
    (Assoc.keys (rule.validators.map validatorConstant ++ rule.operators.map operatorConstant)).Nodup := by
  have hkeys : Assoc.keys (rule.validators.map validatorConstant ++ rule.operators.map operatorConstant) =
      rule.validators.map (·.name) ++ (rule.operators.map (·.name)).map ("_" ++ ·) := by
    simp [Assoc.keys, validatorConstant, operatorConstant, Function.comp_def]
  rw [hkeys, List.nodup_append]
  refine ⟨hkeyed.validators, hkeyed.operators.map fun a b h => (String.append_right_inj "_").1 h, ?_⟩
  rintro name hname _ hoperator rfl
  obtain ⟨operatorName, hoperatorName, rfl⟩ := List.mem_map.1 hoperator
  obtain ⟨spec, hspec, rfl⟩ := List.mem_map.1 hoperatorName
  exact hlegacy.apart spec hspec hname

/-- The table says of each function what there is to say of it, if only by having no entry. -/
theorem get?_constants (hkeyed : rule.Keyed) (hlegacy : rule.FitsLegacy) {entry : String × Constant}
    (hentry : entry ∈ rule.validators.map validatorConstant ++ rule.operators.map operatorConstant) :
    ((legacyRule rule).constants.get? entry.1).getD {} = entry.2 := by
  have hnodup := nodup_keys_constants hkeyed hlegacy
  have hentries : (OrderedMap.ofList (constants rule)).entries = constants rule :=
    OrderedMap.entries_ofList (hnodup.sublist (List.filter_sublist.map _))
  rw [legacyRule, OrderedMap.get?, hentries, constants, Assoc.find?_filter_of_mem hnodup hentry]
  split
  · rfl
  · next hsilent =>
    obtain ⟨name, attributes, err⟩ := entry
    obtain ⟨hattributes, rfl⟩ : attributes.isEmpty = true ∧ err = none := by simpa using hsilent
    rw [OrderedMap.isEmpty_iff.1 hattributes]
    rfl

/-- The arguments and the message of a validator come from the table. -/
theorem validators_toRule (rule : LegacyRule) :
    rule.toRule.validators = rule.validators.map fun name =>
      let constant := (rule.constants.get? name).getD {}
      { name, attributes := constant.attributes, error := nonEmpty constant.err } := by
  refine List.map_congr_left fun name _ => ?_
  cases rule.constants.get? name <;> rfl

theorem operators_toRule (rule : LegacyRule) :
    rule.toRule.operators = rule.operators.map fun name =>
      { name, attributes := ((rule.constants.get? ("_" ++ name)).getD {}).attributes } := by
  refine List.map_congr_left fun name _ => ?_
  cases rule.constants.get? ("_" ++ name) <;> rfl

theorem operators_toRule_legacyRule (hkeyed : rule.Keyed) (hlegacy : rule.FitsLegacy) :
    (legacyRule rule).toRule.operators = rule.operators := by
  have hnames : (legacyRule rule).operators = rule.operators.map (·.name) := rfl
  rw [operators_toRule, hnames, List.map_map]
  refine (List.map_congr_left fun spec hspec => ?_).trans (List.map_id _)
  have hconstant := @get?_constants _ hkeyed hlegacy (operatorConstant spec)
    (List.mem_append_right _ (List.mem_map_of_mem hspec))
  rw [operatorConstant] at hconstant
  simp only [Function.comp_apply, hconstant, id]

/-- A rule's validators stand in the legacy dialect behind the marker of required rules. -/
theorem validators_toRule_legacyRule (hfilled : rule.Filled) (hkeyed : rule.Keyed) (hlegacy : rule.FitsLegacy) :
    ∃ marker : ValidatorSpec, marker.name = "Required" ∧
      (legacyRule rule).toRule.validators = (if rule.required then [marker] else []) ++ rule.validators := by
  have hnames : (legacyRule rule).validators = legacyValidators rule := rfl
  rw [validators_toRule, hnames, legacyValidators, List.map_append, List.map_map]
  -- The marker takes whatever the table has under its name. It is absorbed with it.
  let constant := ((legacyRule rule).constants.get? "Required").getD {}
  refine ⟨{ name := "Required", attributes := constant.attributes, error := nonEmpty constant.err }, rfl,
    congrArg₂ (· ++ ·) ?_ ((List.map_congr_left fun spec hspec => ?_).trans (List.map_id _))⟩
  · cases rule.required <;> rfl
  · have hconstant := @get?_constants _ hkeyed hlegacy (validatorConstant spec)
      (List.mem_append_left _ (List.mem_map_of_mem hspec))
    rw [validatorConstant] at hconstant
    simp only [Function.comp_apply, hconstant, nonEmpty_eq_self (hfilled.errors spec hspec), id,
      ← hlegacy.localizedValidators spec hspec]

/-- Without its marker, a rule is read in the legacy dialect as it was written. -/
theorem absorbMarkers_toRule_legacyRule (hfilled : rule.Filled) (hkeyed : rule.Keyed)
    (hlegacy : rule.FitsLegacy) : (legacyRule rule).toRule.absorbMarkers = rule.absorbMarkers := by
  obtain ⟨marker, hmarker, hvalidators⟩ := validators_toRule_legacyRule hfilled hkeyed hlegacy
  have hrule : (legacyRule rule).toRule =
      { rule with required := false, validators := (if rule.required then [marker] else []) ++ rule.validators } := by
    rw [← hvalidators, hlegacy.localized, hlegacy.name, hlegacy.displayName, hlegacy.additionalInformation,
      ← operators_toRule_legacyRule hkeyed hlegacy, ← nonEmpty_eq_self hfilled.description]
    rfl
  have hpresence : isPresenceMarker marker.name = true := by
    rw [hmarker]
    rfl
  rw [hrule]
  cases hrequired : rule.required <;> simp [FieldRule.absorbMarkers, hrequired, hpresence]

theorem rulesLegacy_writeRules (rules : List FieldRule) :
    rulesLegacy (writeRules .legacy rules) = .ok (rules.map fun rule => (legacyRule rule).toRule) :=
  map_eq_ok_iff.2 ⟨rules.map legacyRule, list_map_eq_ok fun rule _ => ofJson_writeLegacyRule rule,
    List.map_map ..⟩

end Legacy

/-- Rules without empty patterns or texts whose chains name no function twice stand for the same schema in every
dialect that can write them: the keyed dialect needs distinct patterns, and the legacy dialect has no place for
localized messages and most of what describes a rule. -/
theorem decode_write {rules : List FieldRule} (haddressed : ∀ rule ∈ rules, rule.Addressed)
    (hfilled : ∀ rule ∈ rules, rule.Filled) (hkeyed : ∀ rule ∈ rules, rule.Keyed) (tag : String) :
    let schema : Schema := { version := tag, rules := rules.map FieldRule.absorbMarkers }
    decode .v1 (write .v1 tag rules) = .ok schema ∧
    decode .v2 (write .v2 tag rules) = .ok schema ∧
    ((rules.map (·.target)).Nodup → decode .v0 (write .v0 tag rules) = .ok schema) ∧
    ((∀ rule ∈ rules, rule.FitsLegacy) → decode .legacy (write .legacy tag rules) = .ok schema) := by
  refine ⟨decode_eq_ok tag (rulesV1_writeRules hfilled hkeyed) haddressed,
    decode_eq_ok tag (rulesV2_map_toJson hfilled) haddressed,
    fun htargets => decode_eq_ok tag (rulesV0_writeRules hfilled hkeyed htargets) haddressed,
    fun hlegacy => ?_⟩
  have hread : (rules.map fun rule => (legacyRule rule).toRule).map FieldRule.absorbMarkers =
      rules.map FieldRule.absorbMarkers := by
    rw [List.map_map]
    exact List.map_congr_left fun rule hrule =>
      absorbMarkers_toRule_legacyRule (hfilled rule hrule) (hkeyed rule hrule) (hlegacy rule hrule)
  have hdecode := @decode_eq_ok .legacy _ _ tag (rulesLegacy_writeRules rules) <| by
    rw [List.forall_mem_map]
    exact fun rule hrule => ⟨(haddressed rule hrule).target, (haddressed rule hrule).dependencies⟩
  rw [hread] at hdecode
  exact hdecode

/-- A required rule, a marker, functions of one name in both chains and a rule of few words are read alike in all
dialects. A validator may have the place of an operator that another rule uses. -/
theorem decode_write_all :
    let rules : List FieldRule := [
      { target := "size.*"
        required := true
        dependencies := ["unit"]
        validators := [{ name := "Range", attributes := .ofList [("lower", .bool true), ("upper", .null)] },
          { name := "Must-Have" }, { name := "IsNumber", error := some "no number" }]
        operators := [{ name := "Range" }, { name := "Scale", attributes := .ofList [("by", .string "m")] }]
        description := some "lengths" },
      { target := "unit", validators := [{ name := "_Scale", error := some "no unit" }] }]
    let schema : Schema := { version := "any", rules := [
      { target := "size.*"
        required := true
        dependencies := ["unit"]
        validators := [{ name := "Range", attributes := .ofList [("lower", .bool true), ("upper", .null)] },
          { name := "IsNumber", error := some "no number" }]
        operators := [{ name := "Range" }, { name := "Scale", attributes := .ofList [("by", .string "m")] }]
        description := some "lengths" },
      { target := "unit", validators := [{ name := "_Scale", error := some "no unit" }] }] }
    (∀ rule ∈ rules, rule.Addressed) ∧ (∀ rule ∈ rules, rule.Filled) ∧ (∀ rule ∈ rules, rule.Keyed) ∧
      (rules.map (·.target)).Nodup ∧ (∀ rule ∈ rules, rule.FitsLegacy) ∧
      decode .v1 (write .v1 "any" rules) = .ok schema ∧
      decode .v2 (write .v2 "any" rules) = .ok schema ∧
      decode .v0 (write .v0 "any" rules) = .ok schema ∧
      decode .legacy (write .legacy "any" rules) = .ok schema := by
  intro rules schema
  have haddressed : ∀ rule ∈ rules, rule.Addressed := by
    rw [List.forall_mem_cons, List.forall_mem_singleton]
    exact ⟨⟨by decide, by decide⟩, ⟨by decide, by decide⟩⟩
  have hfilled : ∀ rule ∈ rules, rule.Filled := by
    rw [List.forall_mem_cons, List.forall_mem_singleton]
    exact ⟨⟨by decide, by decide, by decide, by decide⟩, ⟨by decide, by decide, by decide, by decide⟩⟩
  have hkeyed : ∀ rule ∈ rules, rule.Keyed := by
    rw [List.forall_mem_cons, List.forall_mem_singleton]
    exact ⟨⟨by decide, by decide⟩, ⟨by decide, by decide⟩⟩
  have htargets : (rules.map (·.target)).Nodup := by decide
  have hlegacy : ∀ rule ∈ rules, rule.FitsLegacy := by
    rw [List.forall_mem_cons, List.forall_mem_singleton]
    exact ⟨⟨rfl, by decide, rfl, rfl, rfl, by decide⟩, ⟨rfl, by decide, rfl, rfl, rfl, by decide⟩⟩
  have hschema : { version := "any", rules := rules.map FieldRule.absorbMarkers } = schema := rfl
  obtain ⟨hv1, hv2, hv0, hlegacyRead⟩ := decode_write haddressed hfilled hkeyed "any"
  rw [hschema] at hv1 hv2 hv0 hlegacyRead
  exact ⟨haddressed, hfilled, hkeyed, htargets, hlegacy, hv1, hv2, hv0 htargets, hlegacyRead hlegacy⟩

end Dialect

end FieldRules
