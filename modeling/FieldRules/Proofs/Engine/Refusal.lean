import FieldRules.Proofs.Engine.Documents
import FieldRules.Proofs.Engine.MemberOrder
import FieldRules.Proofs.Engine.Messages

/-!
The messages of refusals. A text that is given for a locale counts before all others, that of the use of a validator
before that of the rule; only the active locale falls back on the texts that belong to no locale. Each record of a
refusal has the messages of the validator that refuses the value and of the rule whose chain it stands in.
-/

namespace FieldRules.Engine.Validation

/-- The text that a refusal has in a locale, with where it is from. -/
inductive Resolves (active : String) (spec : ValidatorSpec) (rule : FieldRule) (complaint : Complaint) :
    String → String → Prop
  | use {locale text : String} (htext : (locale, text) ∈ spec.localized.entries) :
      Resolves active spec rule complaint locale text
  | rule {locale text : String} (huse : locale ∉ spec.localized.keys)
      (htext : (locale, text) ∈ rule.localized.entries) : Resolves active spec rule complaint locale text
  | error {text : String} (huse : active ∉ spec.localized.keys) (hrule : active ∉ rule.localized.keys)
      (htext : spec.error = some text) : Resolves active spec rule complaint active text
  | function (huse : active ∉ spec.localized.keys) (hrule : active ∉ rule.localized.keys)
      (herror : spec.error = none) : Resolves active spec rule complaint active complaint

section Messages

variable {active locale text : String} {spec : ValidatorSpec} {rule : FieldRule} {complaint : Complaint}

/-- The active locale differs from the others only where neither the use nor the rule has a text. -/
theorem get?_messages_eq_or : (messages active spec rule complaint).get? locale =
    ((spec.localized.get? locale).or (rule.localized.get? locale)).or
      (if locale = active then some (spec.error.getD complaint) else none) := by
  rw [get?_messages]
  split
  · next hactive =>
    rw [hactive]
    cases (spec.localized.get? active).or (rule.localized.get? active) <;> cases spec.error <;> rfl
  · rw [Option.or_none]

theorem mem_keys_messages_iff : locale ∈ (messages active spec rule complaint).keys ↔
    locale = active ∨ locale ∈ spec.localized.keys ∨ locale ∈ rule.localized.keys := by
  rw [← not_iff_not, ← OrderedMap.get?_eq_none_iff, get?_messages_eq_or, Option.or_eq_none_iff,
    Option.or_eq_none_iff, OrderedMap.get?_eq_none_iff, OrderedMap.get?_eq_none_iff, not_or, not_or]
  have hfallback : (if locale = active then some (spec.error.getD complaint) else none) = none ↔ locale ≠ active := by
    simp
  rw [hfallback, and_comm]

theorem mem_messages_iff : (locale, text) ∈ (messages active spec rule complaint).entries ↔
    Resolves active spec rule complaint locale text := by
  rw [← OrderedMap.get?_eq_some_iff, get?_messages_eq_or, Option.or_eq_some_iff, Option.or_eq_some_iff,
    Option.or_eq_none_iff, OrderedMap.get?_eq_some_iff, OrderedMap.get?_eq_some_iff, OrderedMap.get?_eq_none_iff,
    OrderedMap.get?_eq_none_iff]
  constructor
  · rintro ((huse | ⟨huse, hrule⟩) | ⟨⟨huse, hrule⟩, hfallback⟩)
    · exact .use huse
    · exact .rule huse hrule
    · obtain ⟨rfl, rfl⟩ : locale = active ∧ spec.error.getD complaint = text := by simpa using hfallback
      cases herror : spec.error with
      | some text => exact .error huse hrule herror
      | none => exact .function huse hrule herror
  · rintro (huse | ⟨huse, hrule⟩ | ⟨huse, hrule, herror⟩ | ⟨huse, hrule, herror⟩)
    · exact .inl (.inl huse)
    · exact .inl (.inr ⟨huse, hrule⟩)
    · exact .inr ⟨⟨huse, hrule⟩, by rw [if_pos rfl, herror, Option.getD_some]⟩
    · exact .inr ⟨⟨huse, hrule⟩, by rw [if_pos rfl, herror, Option.getD_none]⟩

end Messages

/-- The rule checks values of the view: it addresses some, and no dependency is missing. -/
structure Applies (separator : String) (view : FlatView) (rule : FieldRule) : Prop where
  target : view.HasMatch separator rule.target
  dependencies : ∀ dependency ∈ rule.dependencies, view.HasMatch separator dependency

/-- The record is that of a value that the rule addresses and that the first of its validators not to accept it
refuses, in the words for this validator and this rule. -/
structure Refusal (registry : Registry Validator) (settings : Settings) (view : FlatView) (rowId : Option Json)
    (rule : FieldRule) (r : Record) : Prop where
  addressed : (r.target, r.value) ∈ view.addressed settings.separator rule.target
  row : r.rowId = rowId
  refused : ∃ before spec after complaint, rule.checks = before ++ spec :: after ∧
    (∀ earlier ∈ before, Accepts registry r.value earlier) ∧ Refuses registry r.value spec complaint ∧
    r.validator = spec.name ∧
    ∀ locale text, (locale, text) ∈ r.messages.entries ↔ Resolves settings.locale spec rule complaint locale text

/-- The records are what there is to report of a view by a rule, filed under a row if one is given. Where the rule
checks values, each of them is that of a refusal. -/
structure Accounts (registry : Registry Validator) (settings : Settings) (view : FlatView) (rowId : Option Json)
    (rule : FieldRule) (records : List Record) : Prop where
  found : ∃ traced, RuleBlock registry settings view rule traced ∧ records = traced.result.map (·.tagged rowId)
  refusals : Applies settings.separator view rule → ∀ r ∈ records, Refusal registry settings view rowId rule r

/-- The records fall into blocks, one for each document and rule, in this order. -/
def Attributed (registry : Registry Validator) (settings : Settings) (schema : Schema)
    (filed : List (Json × Option Json)) (records : List Record) : Prop :=
  ∃ blocks, records = blocks.flatten.flatten ∧ List.Forall₂ (fun entry blocks => List.Forall₂
    (Accounts registry settings (entry.1.flatten settings.separator) entry.2) schema.rules blocks) filed blocks

section Engine

variable {registry : Registry Validator} {settings : Settings} {rule : FieldRule}

theorem ValueBlock.refusal {view : FlatView} {entry : String × Json} {part : Traced (List Record)} {r : Record}
    (h : ValueBlock registry settings.locale rule entry.1 entry.2 part)
    (hentry : entry ∈ view.addressed settings.separator rule.target) (hr : r ∈ part.result) (rowId : Option Json) :
    Refusal registry settings view rowId rule (r.tagged rowId) := by
  cases h with
  | accepted => cases hr
  | refused hchecks haccepts hrefuses =>
    obtain rfl := List.mem_singleton.1 hr
    cases rowId <;>
      exact ⟨hentry, rfl, _, _, _, _, hchecks, haccepts, hrefuses, rfl, fun _ _ => mem_messages_iff⟩

theorem RuleBlock.accounts {view : FlatView} {traced : Traced (List Record)}
    (h : RuleBlock registry settings view rule traced) (rowId : Option Json) :
    Accounts registry settings view rowId rule (traced.result.map (·.tagged rowId)) := by
  refine ⟨⟨traced, h, rfl⟩, fun happlies r hr => ?_⟩
  obtain ⟨untagged, huntagged, rfl⟩ := List.mem_map.1 hr
  cases h with
  | absent hnone => exact absurd happlies.target hnone
  | dependency _ hdependencies _ hmissing =>
    exact absurd (happlies.dependencies _ (hdependencies ▸ List.mem_append_right _ List.mem_cons_self)) hmissing
  | checked _ _ hparts =>
    obtain ⟨part, hpart, hmem⟩ := List.mem_flatMap.1 huntagged
    obtain ⟨entry, hentry, hvalue⟩ := exists_left_of_forall₂ hparts hpart
    exact hvalue.refusal hentry hmem rowId

theorem Covers.attributed {schema : Schema} {engine : Validation} {found : Traced Report}
    {filed : List (Json × Option Json)} (hengine : ofSchema schema registry settings = .ok engine)
    (h : engine.Covers found filed) :
    Attributed registry settings schema filed found.result.records.toList := by
  obtain ⟨rfl, hrules⟩ := ofSchema_spec hengine
  refine ⟨filed.map fun entry => engine.rules.map
    (engine.filedBlock (entry.1.flatten engine.settings.separator) entry.2), ?_, ?_⟩
  · simp only [h.records, result_viewRecords, List.flatMap_def, List.flatten_flatten, List.map_map, Function.comp_def]
  · rw [List.forall₂_map_right_iff, List.forall₂_same]
    intro entry _
    rw [List.forall₂_map_right_iff]
    exact hrules.imp fun rule ready hready => (hready.block_spec _).accounts entry.2

end Engine

/-- A refusal has messages in the active locale and in those of the use and of the rule. In the active locale the first
counts of the text of the use, that of the rule, the text given with the use and the function's own; in any other the
text of the use counts before that of the rule. The records of an engine fall into blocks, one for each document and
rule, and in the block of a rule each refusal has just these messages, for the validator that refuses the value and for
this rule, whatever other rules and rows report of the same key. -/
theorem validate_messages :
    (∀ active spec rule complaint,
      (∀ locale, locale ∈ (messages active spec rule complaint).keys ↔
        locale = active ∨ locale ∈ spec.localized.keys ∨ locale ∈ rule.localized.keys) ∧
      ∀ locale text, (locale, text) ∈ (messages active spec rule complaint).entries ↔
        Resolves active spec rule complaint locale text) ∧
    ∀ schema registry settings engine, ofSchema schema registry settings = .ok engine →
      (∀ data documents, Documents data documents → ∃ found filed, engine.validate data = .ok found ∧
        filed.map Prod.fst = documents ∧
        Attributed registry settings schema filed found.result.records.toList) ∧
      ∀ members rowId, ∃ found, engine.validateObject (.object members) rowId = .ok found ∧
        Attributed registry settings schema [(.object members, rowId)] found.result.records.toList := by
  refine ⟨fun _ _ _ _ => ⟨fun _ => mem_keys_messages_iff, fun _ _ => mem_messages_iff⟩, ?_⟩
  intro schema registry settings engine hengine
  refine ⟨fun data documents hdocuments => ?_, fun members rowId => ?_⟩
  · obtain ⟨found, filed, hfound, hfiled, hcovers⟩ := engine.exists_covers hdocuments
    exact ⟨found, filed, hfound, hfiled, hcovers.attributed hengine⟩
  · obtain ⟨found, hfound, hcovers⟩ := engine.exists_covers_object members rowId
    exact ⟨found, hfound, hcovers.attributed hengine⟩

/-- Three rules refuse the same key in two rows, each in its own words. -/
theorem validate_messages_shared_key :
    let registry : Registry Validator :=
      .ofList [("always", fun _ _ => .ok ()), ("never", fun _ _ => .error "function text")]
    let schema : Schema := { rules := [
      { target := "a"
        validators := [{ name := "always" },
          { name := "never", error := some "error text", localized := .ofList [("fr", "validateur")] }]
        localized := .ofList [("en", "field"), ("fr", "champ")] },
      { target := "a"
        validators := [{ name := "never", error := some "error text" }]
        localized := .ofList [("de", "Feld")] },
      { target := "a", validators := [{ name := "never" }] }] }
    let rows : List Json := [.object [("a", .null)], .object [("a", .bool true)]]
    ∃ engine, ofSchema schema registry {} = .ok engine ∧ Documents (.array rows) rows ∧
      ∃ found filed, engine.validate (.array rows) = .ok found ∧ filed.map Prod.fst = rows ∧
        Attributed registry {} schema filed found.result.records.toList ∧
        found.result.records.toList.map (fun r => (r.target, r.value, r.messages.entries)) =
          [("a", .null, [("en", "field"), ("fr", "validateur")]),
            ("a", .null, [("en", "error text"), ("de", "Feld")]),
            ("a", .null, [("en", "function text")]),
            ("a", .bool true, [("en", "field"), ("fr", "validateur")]),
            ("a", .bool true, [("en", "error text"), ("de", "Feld")]),
            ("a", .bool true, [("en", "function text")])] := by
  intro registry schema rows
  obtain ⟨engine, hengine⟩ : ∃ engine, ofSchema schema registry {} = .ok engine := ⟨_, rfl⟩
  have hdocuments : Documents (.array rows) rows := .rows (by simp [rows, Json.kind])
  obtain ⟨found, filed, hfound, hfiled, hattributed⟩ :=
    (validate_messages.2 schema registry {} engine hengine).1 (.array rows) rows hdocuments
  refine ⟨engine, hengine, hdocuments, found, filed, hfound, hfiled, hattributed, ?_⟩
  cases hengine
  obtain rfl := Traced.ok_inj.1 hfound
  rfl

end FieldRules.Engine.Validation
