import FieldRules.Proofs.Json.Decode

/-!
The canonical form of a schema, read back. What the form leaves out of a rule is what a rule has where nothing
is said.
-/

namespace FieldRules

open Json Json.Decode

theorem says_attributes (attributes : Attributes) :
    Says "attributes" Attributes.ofJson {} (mapMember "attributes" attributes) attributes :=
  says_mapMember rfl (table_any_ofMap attributes)

theorem says_localized (localized : Localized) :
    Says "l10n" Localized.ofJson {} (mapMember "l10n" (Localized.toJson localized)) localized :=
  says_mapMember rfl (@table_ofMap_mapValues _ text .string (fun _ => rfl) localized)

theorem ValidatorSpec.ofJson_toJson (spec : ValidatorSpec) : ValidatorSpec.ofJson spec.toJson = .ok spec := by
  have hname : Says "name" text "" [("name", .string spec.name)] spec.name := .told rfl
  refine record_object_eq_ok ?_ (by simp [Field.required, Field.given, Assoc.keys])
  simp only [List.append_assoc]
  refine hname.members_append_eq_ok (by rfl) rfl ?_
  refine (says_attributes spec.attributes).members_append_eq_ok (by rfl) rfl ?_
  refine (says_textMember spec.error).members_append_eq_ok (by rfl) rfl ?_
  exact Eq.trans ((says_localized spec.localized).members_eq_ok (by rfl) rfl) rfl

theorem OperatorSpec.ofJson_toJson (spec : OperatorSpec) : OperatorSpec.ofJson spec.toJson = .ok spec := by
  have hname : Says "name" text "" [("name", .string spec.name)] spec.name := .told rfl
  refine record_object_eq_ok ?_ (by simp [Field.required, Field.given, Assoc.keys])
  refine hname.members_append_eq_ok (by rfl) rfl ?_
  exact Eq.trans ((says_attributes spec.attributes).members_eq_ok (by rfl) rfl) rfl

theorem FieldRule.ofJson_toJson (rule : FieldRule) : FieldRule.ofJson rule.toJson = .ok rule := by
  have htarget : Says "target_key" text "" [("target_key", .string rule.target)] rule.target := .told rfl
  have hrequired : Says "required" flag false [("required", .bool rule.required)] rule.required := .told rfl
  have hvalidators : Says "validators" (list ValidatorSpec.ofJson) [] _ rule.validators :=
    says_listMember rfl (list_map_eq_ok_self fun spec _ => spec.ofJson_toJson)
  have hoperators : Says "operators" (list OperatorSpec.ofJson) [] _ rule.operators :=
    says_listMember rfl (list_map_eq_ok_self fun spec _ => spec.ofJson_toJson)
  refine record_object_eq_ok ?_ (by simp [Field.required, Field.given, Assoc.keys])
  simp only [List.append_assoc]
  refine htarget.members_append_eq_ok (by rfl) rfl (hrequired.members_append_eq_ok (by rfl) rfl ?_)
  refine (says_listMember_string "depends_on" rule.dependencies).members_append_eq_ok (by rfl) rfl ?_
  refine hvalidators.members_append_eq_ok (by rfl) rfl ?_
  refine hoperators.members_append_eq_ok (by rfl) rfl ?_
  refine (says_localized rule.localized).members_append_eq_ok (by rfl) rfl ?_
  refine (says_textMember rule.name).members_append_eq_ok (by rfl) rfl ?_
  refine (says_textMember rule.displayName).members_append_eq_ok (by rfl) rfl ?_
  refine (says_textMember rule.description).members_append_eq_ok (by rfl) rfl ?_
  exact Eq.trans ((says_textMember rule.additionalInformation).members_eq_ok (by rfl) rfl) rfl

/-- A schema is read back from its canonical form as it was, whatever is in it. -/
theorem Schema.ofJson_toJson_eq_ok (schema : Schema) : Schema.ofJson schema.toJson = .ok schema := by
  have hversion : Says "version" text "" [("version", .string schema.version)] schema.version := .told rfl
  have hrules : Says "fields" (list FieldRule.ofJson) []
      [("fields", .array (schema.rules.map FieldRule.toJson))] schema.rules :=
    .told (list_map_eq_ok_self fun rule _ => rule.ofJson_toJson)
  refine record_object_eq_ok ?_ (by simp [Field.given])
  refine hversion.members_append_eq_ok (by rfl) rfl ?_
  exact Eq.trans (hrules.members_eq_ok (by rfl) rfl) rfl

end FieldRules
