import FieldRules.Report.Basic
import Mathlib.Data.List.Forall2

/-!
What rendering a report gives: a line for each record that has a message in the locale, in the order of the
records, and none for any other record.
-/

namespace FieldRules

/-- The record has a message in the locale. -/
def Record.HasMessage (r : Record) (locale : String) : Prop :=
  (r.message? locale).isSome = true

instance (r : Record) (locale : String) : Decidable (r.HasMessage locale) :=
  inferInstanceAs (Decidable ((r.message? locale).isSome = true))

/-- What a record says in a locale in the words of a template: the template, with the parts of the record in
their places and the message of the locale among them. -/
inductive Record.Line (r : Record) (locale template : String) : String → Prop
  | of_message {message : String} (hmessage : r.message? locale = some message) :
      Line r locale template (String.join ((Template.parts template).map (·.text r message)))

namespace Record

variable {r : Record} {locale template : String}

theorem Line.hasMessage {line : String} (h : r.Line locale template line) : r.HasMessage locale := by
  obtain ⟨hmessage⟩ := h
  rw [HasMessage, hmessage, Option.isSome_some]

theorem not_hasMessage_iff : ¬ r.HasMessage locale ↔ r.message? locale = none := by
  rw [HasMessage, Option.not_isSome_iff_eq_none]

theorem render?_eq_some_iff {line : String} :
    r.render? locale template = some line ↔ r.Line locale template line := by
  rw [render?, Option.map_eq_some_iff]
  constructor
  · rintro ⟨message, hmessage, rfl⟩
    exact .of_message hmessage
  · rintro ⟨hmessage⟩
    exact ⟨_, hmessage, rfl⟩

theorem render?_eq_none_iff : r.render? locale template = none ↔ ¬ r.HasMessage locale := by
  rw [render?, Option.map_eq_none_iff, not_hasMessage_iff]

end Record

namespace Report

variable {report : Report} {locale template : String}

/-- The lines are those of the records that have a message, one for each. -/
theorem forall₂_render (report : Report) (locale template : String) :
    List.Forall₂ (fun r line => r.Line locale template line)
      (report.records.toList.filter fun r => r.HasMessage locale) (report.render locale template) := by
  rw [render]
  induction report.records.toList with
  | nil => exact .nil
  | cons r rest ih =>
    cases hline : r.render? locale template with
    | none =>
      have hmessage := Record.render?_eq_none_iff.1 hline
      rw [List.filter_cons_of_neg (by simpa using hmessage)]
      simpa only [List.filterMap_cons, hline] using ih
    | some line =>
      have hrecord := Record.render?_eq_some_iff.1 hline
      rw [List.filter_cons_of_pos (by simpa using hrecord.hasMessage)]
      simpa only [List.filterMap_cons, hline] using .cons hrecord ih

/-- There is a line for each record if every record has a message. -/
theorem forall₂_render_of_hasMessage (h : ∀ r ∈ report.records.toList, r.HasMessage locale) (template : String) :
    List.Forall₂ (fun r line => r.Line locale template line) report.records.toList
      (report.render locale template) := by
  have hrender := report.forall₂_render locale template
  rwa [List.filter_eq_self.2 fun r hr => decide_eq_true (h r hr)] at hrender

theorem collapse?_eq_none_iff {join : Option String} :
    report.collapse? locale template join = none ↔ ∀ r ∈ report.records.toList, ¬ r.HasMessage locale := by
  have hlines : report.render locale template = [] ↔
      ∀ r ∈ report.records.toList, ¬ r.HasMessage locale := by
    simp only [render, List.filterMap_eq_nil_iff, Record.render?_eq_none_iff]
  rw [← hlines, collapse?]
  cases report.render locale template <;> simp

theorem hasErrors_eq_false_iff : report.hasErrors = false ↔ report.records.toList = [] := by
  simp [hasErrors, isEmpty]

/-- Where every record has a message, nothing renders only if there is nothing to render. -/
theorem collapse?_eq_none_iff_of_hasMessage (h : ∀ r ∈ report.records.toList, r.HasMessage locale)
    {join : Option String} : report.collapse? locale template join = none ↔ report.hasErrors = false := by
  rw [collapse?_eq_none_iff, hasErrors_eq_false_iff, List.eq_nil_iff_forall_not_mem]
  exact ⟨fun hnone r hr => hnone r hr (h r hr), fun hnone r hr => absurd hr (hnone r)⟩

end Report

end FieldRules
