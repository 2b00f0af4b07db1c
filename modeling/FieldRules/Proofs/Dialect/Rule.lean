import FieldRules.Dialect.Decode
import FieldRules.Proofs.Schema.Canonical

/-!
Rules as the dialects read them. No text of a rule that may be absent is read as empty, and building a rule
refuses empty patterns and removes its markers.
-/

namespace FieldRules

open Json.Decode

/-- No text of the rule that may be absent is empty. Additional information alone may be. -/
structure FieldRule.Filled (rule : FieldRule) : Prop where
  errors : ∀ spec ∈ rule.validators, spec.error ≠ some ""
  name : rule.name ≠ some ""
  displayName : rule.displayName ≠ some ""
  description : rule.description ≠ some ""

/-- No pattern of the rule is empty. -/
structure FieldRule.Addressed (rule : FieldRule) : Prop where
  target : rule.target ≠ ""
  dependencies : ∀ pattern ∈ rule.dependencies, pattern ≠ ""

/-- No validator of the rule is a marker. -/
def FieldRule.Unmarked (rule : FieldRule) : Prop :=
  ∀ spec ∈ rule.validators, isPresenceMarker spec.name = false

/-- What a rule is behind any reading: nothing empty counts, and no marker is left. -/
structure FieldRule.Normal (rule : FieldRule) : Prop where
  filled : rule.Filled
  addressed : rule.Addressed
  unmarked : rule.Unmarked

namespace FieldRule

variable {rule built : FieldRule}

theorem build_eq_ok_iff : rule.build = .ok built ↔ rule.Addressed ∧ rule.absorbMarkers = built := by
  have hdependencies : rule.dependencies.findIdx? String.isEmpty = none ↔
      ∀ pattern ∈ rule.dependencies, pattern ≠ "" := by
    simp [List.findIdx?_eq_none_iff]
  rw [build]
  split
  · next htarget =>
    exact ⟨nofun, fun h => absurd (String.isEmpty_iff.1 htarget) h.1.target⟩
  · next htarget =>
    rw [String.isEmpty_iff] at htarget
    split
    · next position hposition =>
      refine ⟨nofun, fun h => ?_⟩
      rw [hdependencies.2 h.1.dependencies] at hposition
      cases hposition
    · next hnone =>
      rw [Except.ok.injEq]
      exact ⟨fun h => ⟨⟨htarget, hdependencies.1 hnone⟩, h⟩, And.right⟩

theorem unmarked_absorbMarkers (rule : FieldRule) : rule.absorbMarkers.Unmarked := by
  intro spec hspec
  simpa using (List.mem_filter.1 hspec).2

theorem Unmarked.absorbMarkers_eq (h : rule.Unmarked) : rule.absorbMarkers = rule := by
  have hany : (rule.validators.any fun spec => isPresenceMarker spec.name) = false := by
    simpa [Unmarked] using h
  have hfilter : (rule.validators.filter fun spec => !isPresenceMarker spec.name) = rule.validators := by
    simpa [Unmarked] using h
  rw [absorbMarkers, hany, hfilter, Bool.or_false]

theorem Filled.absorbMarkers (h : rule.Filled) : rule.absorbMarkers.Filled :=
  ⟨fun spec hspec => h.errors spec (List.mem_of_mem_filter hspec), h.name, h.displayName, h.description⟩

theorem Addressed.absorbMarkers (h : rule.Addressed) : rule.absorbMarkers.Addressed :=
  ⟨h.target, h.dependencies⟩

/-- The members that say what holds, but for the pattern. -/
def heldMembers (required : String) (validators operators : List (String × Json)) (rule : FieldRule) :
    List (String × Json) :=
  [(required, .bool rule.required)]
    ++ Json.listMember "depends_on" (rule.dependencies.map .string)
    ++ validators
    ++ operators
    ++ Json.mapMember "l10n" (Localized.toJson rule.localized)

/-- The members that describe. -/
def describingMembers (rule : FieldRule) : List (String × Json) :=
  Json.textMember "name" rule.name
    ++ Json.textMember "display_name" rule.displayName
    ++ Json.textMember "description" rule.description
    ++ Json.textMember "additional_information" rule.additionalInformation

theorem toJson_eq (rule : FieldRule) :
    rule.toJson = .object ([("target_key", .string rule.target)]
      ++ rule.heldMembers "required" (Json.listMember "validators" (rule.validators.map ValidatorSpec.toJson))
        (Json.listMember "operators" (rule.operators.map OperatorSpec.toJson))
      ++ rule.describingMembers) := by
  simp [toJson, heldMembers, describingMembers]

end FieldRule

namespace Dialect

theorem nonEmpty_ne (s : Option String) : nonEmpty s ≠ some "" := by
  simp [nonEmpty, Option.filter_eq_some_iff]

theorem nonEmpty_eq_self {s : Option String} (h : s ≠ some "") : nonEmpty s = s := by
  cases s with
  | none => rfl
  | some s => simpa [nonEmpty, Option.filter_eq_some_iff, String.isEmpty_iff] using h

/-- Additional information is read from a member of any kind, and from a text as it is. -/
theorem says_informationText (t : Option String) :
    ∃ v, Says "additional_information" any .null (Json.textMember "additional_information" t) v ∧
      informationText v = t := by
  cases t with
  | none => exact ⟨.null, .silent, rfl⟩
  | some s => exact ⟨.string s, .told rfl, rfl⟩

section RuleOfJson

variable {required : String} {target : Json.Decoder String} {validators : Json.Decoder (List ValidatorSpec)}
  {operators : Json.Decoder (List OperatorSpec)} {rule : FieldRule}
  {givenTarget givenValidators givenOperators : List (String × Json)}

theorem members_ruleFields (hrequired : required = "required" ∨ required = "is_required")
    (htarget : Says "target_key" target "" givenTarget rule.target)
    (hvalidators : Says "validators" validators [] givenValidators rule.validators)
    (hoperators : Says "operators" operators [] givenOperators rule.operators) :
    members (ruleFields required target validators operators) { target := "" }
        (givenTarget ++ rule.heldMembers required givenValidators givenOperators ++ rule.describingMembers) =
      .ok { rule with name := none, displayName := none, description := none, additionalInformation := none } := by
  have hflag : Says required flag false [(required, .bool rule.required)] rule.required := .told rfl
  simp only [FieldRule.heldMembers, FieldRule.describingMembers, List.append_assoc]
  -- Which field a name is of is computed, so the name of the flag has to be known.
  rcases hrequired with rfl | rfl
  all_goals
    refine htarget.members_append_eq_ok (by rfl) rfl (hflag.members_append_eq_ok (by rfl) rfl ?_)
    refine (says_listMember_string "depends_on" rule.dependencies).members_append_eq_ok (by rfl) rfl ?_
    refine hvalidators.members_append_eq_ok (by rfl) rfl ?_
    refine hoperators.members_append_eq_ok (by rfl) rfl ?_
    refine (says_localized rule.localized).members_append_eq_ok (by rfl) rfl ?_
    refine (says_textMember rule.name).members_append_of_find?_eq_none rfl ?_
    refine (says_textMember rule.displayName).members_append_of_find?_eq_none rfl ?_
    refine (says_textMember rule.description).members_append_of_find?_eq_none rfl ?_
    exact (says_textMember rule.additionalInformation).members_of_find?_eq_none rfl

theorem members_descriptive (hfilled : rule.Filled) (hrequired : required = "required" ∨ required = "is_required")
    (htarget : Says "target_key" target "" givenTarget rule.target)
    (hvalidators : Says "validators" validators [] givenValidators rule.validators)
    (hoperators : Says "operators" operators [] givenOperators rule.operators) :
    members descriptive
        { rule with name := none, displayName := none, description := none, additionalInformation := none }
        (givenTarget ++ rule.heldMembers required givenValidators givenOperators ++ rule.describingMembers) =
      .ok rule := by
  have hflag : Says required flag false [(required, .bool rule.required)] rule.required := .told rfl
  obtain ⟨information, hinformation, htext⟩ := says_informationText rule.additionalInformation
  simp only [FieldRule.heldMembers, FieldRule.describingMembers, List.append_assoc]
  refine htarget.members_append_of_find?_eq_none rfl ?_
  refine hflag.members_append_of_find?_eq_none (by rcases hrequired with rfl | rfl <;> rfl) ?_
  refine (says_listMember_string "depends_on" rule.dependencies).members_append_of_find?_eq_none rfl ?_
  refine hvalidators.members_append_of_find?_eq_none rfl (hoperators.members_append_of_find?_eq_none rfl ?_)
  refine (says_localized rule.localized).members_append_of_find?_eq_none rfl ?_
  refine (says_textMember rule.name).members_append_eq_ok (by rfl) rfl ?_
  refine (says_textMember rule.displayName).members_append_eq_ok (by rfl) rfl ?_
  refine (says_textMember rule.description).members_append_eq_ok (by rfl) rfl ?_
  refine Eq.trans (hinformation.members_eq_ok (by rfl) rfl) ?_
  simp only [htext, nonEmpty_eq_self hfilled.name, nonEmpty_eq_self hfilled.displayName,
    nonEmpty_eq_self hfilled.description]

/-- A rule is read from members that say it. -/
theorem ruleOfJson_eq_ok (hfilled : rule.Filled) (hrequired : required = "required" ∨ required = "is_required")
    (htarget : Says "target_key" target "" givenTarget rule.target)
    (hvalidators : Says "validators" validators [] givenValidators rule.validators)
    (hoperators : Says "operators" operators [] givenOperators rule.operators) :
    ruleOfJson (ruleFields required target validators operators)
        (.object (givenTarget ++ rule.heldMembers required givenValidators givenOperators
          ++ rule.describingMembers)) = .ok rule := by
  refine bind_eq_ok_iff.2 ⟨_, object_eq_ok (members_ruleFields hrequired htarget hvalidators hoperators) ?_,
    members_descriptive hfilled hrequired htarget hvalidators hoperators⟩
  simp [ruleFields, Field.given]

end RuleOfJson

end Dialect

end FieldRules
