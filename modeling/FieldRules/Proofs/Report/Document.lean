import FieldRules.Command.Output
import FieldRules.Proofs.Schema.Canonical

/-!
Records in documents for programs, read back. A part that is absent leaves no member behind, so that it differs from
one that is null; only the identity of a row cannot be told from an absent one if it is null.
-/

namespace FieldRules

open Json Json.Decode

namespace Record

/-- The record without the identity of its row, if that is null. -/
def withoutNullRow (r : Record) : Record := { r with rowId := r.rowId.filter (· ≠ .null) }

theorem withoutNullRow_eq_self_iff {r : Record} : r.withoutNullRow = r ↔ r.rowId ≠ some .null := by
  obtain ⟨target, validator, messages, value, rowId, context⟩ := r
  cases rowId with
  | none => simp [withoutNullRow]
  | some id => simp [withoutNullRow, Option.filter_eq_some_iff]

/-- Null says what the absence of an identity says. -/
theorem says_rowId (rowId : Option Json) :
    Says "row_id" (optional any) none (match rowId with | some id => [("row_id", id)] | none => [])
      (rowId.filter (· ≠ .null)) := by
  cases rowId with
  | none => exact .silent
  | some id => cases id <;> exact .told rfl

/-- What a context holds stands in an object of its own, so that an empty one is there all the same. -/
theorem says_context (context : Option (OrderedMap Json)) :
    Says "context" (optional Attributes.ofJson) none
      (match context with | some context => [("context", .ofMap context)] | none => []) context := by
  cases context with
  | none => exact .silent
  | some context =>
    have hread : Attributes.ofJson (.ofMap context) = .ok context := table_any_ofMap context
    exact .told (map_eq_ok_iff.2 ⟨context, hread, rfl⟩)

/-- A record is read back with all its parts, but for the identity of a row that is null. -/
theorem ofJson_toJson (r : Record) : Record.ofJson r.toJson = .ok r.withoutNullRow := by
  have htarget : Says "target" text "" [("target", .string r.target)] r.target := .told rfl
  have hvalidator : Says "validator" text "" [("validator", .string r.validator)] r.validator := .told rfl
  have hmessages :
      Says "messages" Localized.ofJson {} [("messages", .ofMap (Localized.toJson r.messages))] r.messages :=
    .told (@table_ofMap_mapValues _ text .string (fun _ => rfl) r.messages)
  have hvalue : Says "value" any .null [("value", r.value)] r.value := .told rfl
  refine record_object_eq_ok ?_ (by simp [Field.required, Field.given, Assoc.keys])
  rw [List.append_assoc]
  refine htarget.members_append_eq_ok (by rfl) rfl ?_
  refine hvalidator.members_append_eq_ok (by rfl) rfl ?_
  refine hmessages.members_append_eq_ok (by rfl) rfl ?_
  refine hvalue.members_append_eq_ok (by rfl) rfl ?_
  refine (says_rowId r.rowId).members_append_eq_ok (by rfl) rfl ?_
  exact Eq.trans ((says_context r.context).members_eq_ok (by rfl) rfl) rfl

end Record

namespace Report

theorem list_ofJson_toJson (report : Report) :
    list Record.ofJson report.toJson = .ok (report.records.toList.map Record.withoutNullRow) :=
  list_map_eq_ok fun r _ => r.ofJson_toJson

end Report

namespace Command

theorem member?_errors_reportDocument (style : ReportStyle) (report : Report) :
    (reportDocument style report).member? "errors" = some report.toJson := rfl

/-- Every record is read back from its JSON form as it was, be it that parts are absent or null or hold anything,
unless its row has an identity and that is null; then it comes back without one. The document on a report lists the
forms of its records in order, so that reports with one document, whatever their words are, hold the same records but
for such identities. -/
theorem reportDocument_determines_records :
    (∀ r : Record, Record.ofJson r.toJson = .ok r.withoutNullRow ∧
      (Record.ofJson r.toJson = .ok r ↔ r.rowId ≠ some .null)) ∧
    (∀ (style : ReportStyle) (report : Report),
      (reportDocument style report).member? "errors" = some (.array (report.records.toList.map Record.toJson)) ∧
      list Record.ofJson (.array (report.records.toList.map Record.toJson)) =
        .ok (report.records.toList.map Record.withoutNullRow)) ∧
    ∀ (style other : ReportStyle) (a b : Report), reportDocument style a = reportDocument other b →
      a.records.toList.map Record.withoutNullRow = b.records.toList.map Record.withoutNullRow := by
  refine ⟨fun r => ⟨r.ofJson_toJson, ?_⟩, fun style report => ⟨rfl, report.list_ofJson_toJson⟩, ?_⟩
  · rw [r.ofJson_toJson, Except.ok.injEq, Record.withoutNullRow_eq_self_iff]
  · intro style other a b hsame
    have herrors : some a.toJson = some b.toJson := by
      rw [← member?_errors_reportDocument style, hsame, member?_errors_reportDocument]
    have hread := a.list_ofJson_toJson
    rw [Option.some.inj herrors, b.list_ofJson_toJson] at hread
    exact (Except.ok.inj hread).symm

end Command

end FieldRules
