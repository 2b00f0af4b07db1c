import FieldRules.Proofs.Engine.Rows

/-!
Data as an engine takes it apart. Checking data is checking its documents one behind the other, each filed under a row
or under none; data that has no documents is refused, whatever the engine.
-/

namespace FieldRules.Engine.Validation

/-- Some call of the engine comes out so. -/
inductive Gives (engine : Validation) (outcome : Traced (Except Error Report)) : Prop
  | validate {data : Json} (h : engine.validate data = outcome)
  | object {data : Json} {rowId : Option Json} (h : engine.validateObject data rowId = outcome)
  | rows {rows : List Json} (h : engine.validateRows rows = outcome)

/-- The report is that of documents, each with the row under which it is filed. -/
structure Covers (engine : Validation) (found : Traced Report) (filed : List (Json × Option Json)) : Prop where
  records : found.result.records.toList = filed.flatMap fun entry =>
    (engine.viewRecords (entry.1.flatten engine.settings.separator) entry.2).result
  calls : found.calls = filed.flatMap fun entry =>
    (engine.viewRecords (entry.1.flatten engine.settings.separator) entry.2).calls

section Covers

variable (engine : Validation)

theorem exists_covers_object (members : List (String × Json)) (rowId : Option Json) :
    ∃ found, engine.validateObject (.object members) rowId = .ok found ∧
      engine.Covers found [(.object members, rowId)] := by
  refine ⟨_, rfl, ?_, ?_⟩
  · rw [toList_records_report, List.flatMap_singleton]
  · rw [List.flatMap_singleton]
    rfl

theorem exists_covers_rows {rows : List Json} (hobjects : ∀ row ∈ rows, row.kind = .object) :
    ∃ found filed, engine.validateRows rows = .ok found ∧ filed.map Prod.fst = rows ∧ engine.Covers found filed := by
  let filed := rows.zipIdx.map fun entry =>
    (entry.1, some (engine.rowId (entry.1.flatten engine.settings.separator) entry.2))
  refine ⟨_, filed, by rw [validateRows, misshapenRow?_eq_none_iff.2 hobjects], ?_, ?_, ?_⟩
  · rw [List.map_map]
    exact List.zipIdx_map_fst 0 rows
  · rw [Report.toList_records_foldl_appendAll, List.flatMap_map, List.mapIdx_eq_zipIdx_map, List.flatMap_map,
      List.flatMap_map]
    exact congrArg rows.zipIdx.flatMap (funext fun entry => engine.toList_records_report _)
  · rw [List.mapIdx_eq_zipIdx_map, List.flatMap_map, List.flatMap_map]
    rfl

theorem exists_covers {data : Json} {documents : List Json} (h : Documents data documents) :
    ∃ found filed, engine.validate data = .ok found ∧ filed.map Prod.fst = documents ∧
      engine.Covers found filed := by
  cases h with
  | object members =>
    obtain ⟨found, hfound, hcovers⟩ := engine.exists_covers_object members none
    exact ⟨found, _, hfound, rfl, hcovers⟩
  | rows hobjects => exact engine.exists_covers_rows hobjects

end Covers

section Outcome

variable {engine : Validation}

/-- What an engine refuses to check does not depend on the engine. -/
theorem exists_result_validate_eq_error_iff {data : Json} :
    (∃ failure, (engine.validate data).result = .error failure) ↔ ¬ ∃ documents, Documents data documents := by
  constructor
  · rintro ⟨failure, h⟩ ⟨documents, hdocuments⟩
    obtain ⟨found, -, hfound, -, -⟩ := engine.exists_covers hdocuments
    rw [hfound] at h
    cases h
  · intro hnone
    cases data with
    | object members => exact absurd ⟨_, .object members⟩ hnone
    | array rows =>
      cases hmisshapen : misshapenRow? rows with
      | none => exact absurd ⟨rows, .rows (misshapenRow?_eq_none_iff.1 hmisshapen)⟩ hnone
      | some row => exact ⟨_, result_validateRows_eq_error_iff.2 ⟨row, hmisshapen, rfl⟩⟩
    | null | bool _ | number _ | string _ => exact ⟨_, rfl⟩

/-- Every call is one of an object or of rows. -/
theorem Gives.cases {outcome : Traced (Except Error Report)} (h : engine.Gives outcome) :
    (∃ data rowId, engine.validateObject data rowId = outcome) ∨ ∃ rows, engine.validateRows rows = outcome := by
  cases h with
  | validate h =>
    unfold Validation.validate at h
    split at h
    · exact .inr ⟨_, h⟩
    · exact .inl ⟨_, none, h⟩
  | object h => exact .inl ⟨_, _, h⟩
  | rows h => exact .inr ⟨_, h⟩

/-- A call comes to a report on documents, or it is refused for the shape of the data before it checks anything. -/
theorem Gives.covers_or_refused {outcome : Traced (Except Error Report)} (h : engine.Gives outcome) :
    (∃ found filed, outcome = .ok found ∧ engine.Covers found filed) ∨
      ∃ kind, outcome = .refused (.invalidShape kind) := by
  rcases h.cases with ⟨data, rowId, rfl⟩ | ⟨rows, rfl⟩
  · cases data with
    | object members =>
      obtain ⟨found, hfound, hcovers⟩ := engine.exists_covers_object members rowId
      exact .inl ⟨found, _, hfound, hcovers⟩
    | null | bool _ | number _ | string _ | array _ => exact .inr ⟨_, rfl⟩
  · cases hmisshapen : misshapenRow? rows with
    | none =>
      obtain ⟨found, filed, hfound, -, hcovers⟩ :=
        engine.exists_covers_rows (misshapenRow?_eq_none_iff.1 hmisshapen)
      exact .inl ⟨found, filed, hfound, hcovers⟩
    | some row => exact .inr ⟨_, validateRows_of_misshapenRow hmisshapen⟩

theorem Gives.of_error {outcome : Traced (Except Error Report)} {failure : Error} (h : engine.Gives outcome)
    (hfailure : outcome.result = .error failure) :
    outcome.calls = [] ∧ ∃ kind, failure = .invalidShape kind := by
  rcases h.covers_or_refused with ⟨found, -, rfl, -⟩ | ⟨kind, rfl⟩
  · cases hfailure
  · exact ⟨rfl, kind, (Except.error.inj hfailure).symm⟩

theorem Gives.exists_covers {found : Traced Report} (h : engine.Gives (.ok found)) :
    ∃ filed, engine.Covers found filed := by
  rcases h.covers_or_refused with ⟨covered, filed, heq, hcovers⟩ | ⟨kind, heq⟩
  · obtain rfl := Traced.ok_inj.1 heq
    exact ⟨filed, hcovers⟩
  · cases congrArg Traced.result heq

end Outcome

end FieldRules.Engine.Validation
