import FieldRules.Proofs.Engine.Validation

/-!
What checking rows reports: the blocks of the rows one behind the other, each row's block being what checking
the row alone reports. Rows may share an identity, and rules a target; no record is lost by it.
-/

namespace FieldRules.Engine.Validation

/-- What identifies a row: what its flat view holds at the configured path, be it null, or else its position. -/
inductive RowId (settings : Settings) (row : Json) (position : Nat) : Json → Prop
  | held {path : String} {id : Json} (hkey : settings.idKey = some path)
      (hheld : (path, id) ∈ (row.flatten settings.separator).entries) : RowId settings row position id
  | position (hnone : ∀ path, settings.idKey = some path → path ∉ (row.flatten settings.separator).keys) :
      RowId settings row position (.string s!"row-{position}")

/-- What there is to say of a row: what identifies it, and what checking it alone reports. -/
structure Finding where
  id : Json
  alone : Traced Report

/-- The records of a row, filed under what identifies it and otherwise as they are. -/
def Finding.records (finding : Finding) : List Record :=
  finding.alone.result.records.toList.map fun r => { r with rowId := some finding.id }

/-- The finding is that of the row at the position. -/
structure Finds (engine : Validation) (entry : Json × Nat) (finding : Finding) : Prop where
  id : RowId engine.settings entry.1 entry.2 finding.id
  alone : engine.validateObject entry.1 = .ok finding.alone

/-- A row has just one identity. -/
theorem rowId_iff {engine : Validation} {row : Json} {position : Nat} {id : Json} :
    RowId engine.settings row position id ↔
      engine.rowId (row.flatten engine.settings.separator) position = id := by
  rw [rowId]
  constructor
  · rintro (⟨hkey, hheld⟩ | hnone)
    · rw [hkey, Option.bind_some, OrderedMap.get?_eq_some_iff.2 hheld, Option.getD_some]
    · cases hkey : engine.settings.idKey with
      | none => rfl
      | some path => rw [Option.bind_some, OrderedMap.get?_eq_none_iff.2 (hnone path hkey), Option.getD_none]
  · rintro rfl
    cases hheld : engine.settings.idKey.bind (row.flatten engine.settings.separator).get? with
    | none =>
      refine .position fun path hkey => OrderedMap.get?_eq_none_iff.1 ?_
      rwa [hkey] at hheld
    | some id =>
      obtain ⟨path, hkey, hid⟩ := Option.bind_eq_some_iff.1 hheld
      exact .held hkey (OrderedMap.get?_eq_some_iff.1 hid)

section Refused

variable {engine : Validation} {rows : List Json}

theorem validateRows_of_misshapenRow {row : Json} (h : misshapenRow? rows = some row) :
    engine.validateRows rows = .refused (.invalidShape row.kind) := by
  rw [validateRows, h]

/-- Which rows are refused and how does not depend on the engine. -/
theorem result_validateRows_eq_error_iff {failure : Error} :
    (engine.validateRows rows).result = .error failure ↔
      ∃ row, misshapenRow? rows = some row ∧ failure = .invalidShape row.kind := by
  rw [validateRows]
  cases misshapenRow? rows with
  | none => simp
  | some row => simp [eq_comm]

/-- No row is checked before all of them are known to be objects. -/
theorem calls_validateRows_of_error {failure : Error} (h : (engine.validateRows rows).result = .error failure) :
    (engine.validateRows rows).calls = [] := by
  obtain ⟨row, hrow, -⟩ := result_validateRows_eq_error_iff.1 h
  rw [validateRows_of_misshapenRow hrow, Traced.calls_refused]

end Refused

section Records

variable (engine : Validation)

theorem toList_records_report (found : Traced (List Record)) :
    (engine.report found).result.records.toList = found.result := by
  simp [report, Report.toList_records_foldl_append]

/-- A row's report is what checking the row alone reports, with the records filed under the row. -/
theorem exists_finds_rowReport {row : Json} (hobject : row.kind = .object) (position : Nat) :
    ∃ finding, Finds engine (row, position) finding ∧
      (engine.rowReport position row).result.records.toList = finding.records ∧
      (engine.rowReport position row).calls = finding.alone.calls := by
  obtain ⟨members, rfl⟩ : ∃ members, row = .object members := by
    cases row <;> first | exact ⟨_, rfl⟩ | cases hobject
  let view := (Json.object members).flatten engine.settings.separator
  refine ⟨⟨engine.rowId view position, engine.report (engine.viewRecords view none)⟩, ⟨rowId_iff.2 rfl, rfl⟩,
    ?_, rfl⟩
  have halone : (engine.viewRecords view none).result =
      (engine.rules.map (block engine.settings.locale view)).flatMap (·.result) := List.map_id _
  rw [rowReport, Finding.records, toList_records_report, toList_records_report, halone]
  rfl

/-- The reports of rows are those of their findings, row by row. -/
theorem exists_findings {entries : List (Json × Nat)} (hobjects : ∀ entry ∈ entries, entry.1.kind = .object) :
    ∃ findings, List.Forall₂ (Finds engine) entries findings ∧
      (entries.map fun entry => engine.rowReport entry.2 entry.1).flatMap (·.result.records.toList) =
        findings.flatMap (·.records) ∧
      (entries.map fun entry => engine.rowReport entry.2 entry.1).flatMap (·.calls) =
        findings.flatMap (·.alone.calls) := by
  induction entries with
  | nil => exact ⟨[], .nil, rfl, rfl⟩
  | cons entry rest ih =>
    obtain ⟨hobject, hrest⟩ := List.forall_mem_cons.1 hobjects
    obtain ⟨finding, hfinds, hrecords, hcalls⟩ := engine.exists_finds_rowReport hobject entry.2
    obtain ⟨findings, hfindings, hrestRecords, hrestCalls⟩ := ih hrest
    refine ⟨finding :: findings, .cons hfinds hfindings, ?_, ?_⟩
    · rw [List.map_cons, List.flatMap_cons, List.flatMap_cons, hrecords, hrestRecords]
    · rw [List.map_cons, List.flatMap_cons, List.flatMap_cons, hcalls, hrestCalls]

end Records

/-- The records that are filed under an identity are the blocks of the rows that have it. -/
theorem filter_flatMap_records (findings : List Finding) (id : Json) :
    (findings.flatMap (·.records)).filter (fun r => r.rowId.any (·.sameValue id)) =
      (findings.filter (·.id.sameValue id)).flatMap (·.records) := by
  induction findings with
  | nil => rfl
  | cons finding rest ih =>
    have hblock : finding.records.filter (fun r => r.rowId.any (·.sameValue id)) =
        if finding.id.sameValue id = true then finding.records else [] := by
      rw [Finding.records, List.filter_map]
      split
      · next hsame => simp [Function.comp_def, hsame]
      · next hother => simp [Function.comp_def, hother]
    rw [List.flatMap_cons, List.filter_append, ih, hblock, List.filter_cons]
    split
    · rw [List.flatMap_cons]
    · rfl

/-- Rows are refused exactly if one of them is not an object; the first such row is named, whatever the
engine does, and no validator has been called by then. Otherwise the report is made of the blocks of the
rows in their order, and so is that of any one identity, of the blocks of the rows that have it. -/
theorem validateRows_spec (engine : Validation) (rows : List Json) :
    (∀ failure, (engine.validateRows rows).result = .error failure ↔
      ∃ before row after, rows = before ++ row :: after ∧ (∀ earlier ∈ before, earlier.kind = .object) ∧
        row.kind ≠ .object ∧ failure = .invalidShape row.kind) ∧
    (∀ failure, (engine.validateRows rows).result = .error failure → (engine.validateRows rows).calls = []) ∧
    ((∀ row ∈ rows, row.kind = .object) →
      ∃ findings report, engine.validateRows rows = .ok report ∧
        List.Forall₂ (Finds engine) rows.zipIdx findings ∧
        report.result.records.toList = findings.flatMap (·.records) ∧
        report.calls = findings.flatMap (·.alone.calls) ∧
        ∀ id, (report.result.forRow id).records.toList =
          (findings.filter (·.id.sameValue id)).flatMap (·.records)) := by
  refine ⟨fun failure => ?_, fun failure => calls_validateRows_of_error, fun hobjects => ?_⟩
  · rw [result_validateRows_eq_error_iff]
    constructor
    · rintro ⟨row, hrow, rfl⟩
      obtain ⟨hkind, before, after, hrows, hbefore⟩ := misshapenRow?_eq_some_iff.1 hrow
      exact ⟨before, row, after, hrows, hbefore, hkind, rfl⟩
    · rintro ⟨before, row, after, hrows, hbefore, hkind, rfl⟩
      exact ⟨row, misshapenRow?_eq_some_iff.2 ⟨hkind, before, after, hrows, hbefore⟩, rfl⟩
  · obtain ⟨findings, hfindings, hrecords, hcalls⟩ := @exists_findings engine rows.zipIdx fun entry hentry =>
      hobjects entry.1 (List.fst_mem_of_mem_zipIdx hentry)
    rw [← List.mapIdx_eq_zipIdx_map] at hrecords hcalls
    let reports := rows.mapIdx engine.rowReport
    let collected := (reports.map (·.result)).foldl Report.appendAll { locale := engine.settings.locale }
    have hcollected : collected.records.toList = findings.flatMap (·.records) := by
      rw [Report.toList_records_foldl_appendAll, List.flatMap_map, hrecords]
      rfl
    refine ⟨findings, ⟨reports.flatMap (·.calls), collected⟩, ?_, hfindings, hcollected, hcalls, fun id => ?_⟩
    · rw [validateRows, misshapenRow?_eq_none_iff.2 hobjects]
    · have hrow := congrArg Listing.records (Report.toListing_forRow collected id)
      rw [← filter_flatMap_records, ← hcollected]
      exact hrow

/-- Rows that share an identity, one by its position, keep their records, and so do rules that share a
target. No engine looks at an object where another row is none. -/
theorem validateRows_spec_shared_id :
    let schema : Schema := { rules := [{ target := "a", required := true }, { target := "a", required := true }] }
    let rows : List Json := [.object [("id", .string "row-1")], .object [], .object [("id", .null)]]
    (∀ engine : Validation,
      (engine.validateRows [.object [("a", .null)], .null]).result = .error (.invalidShape .null) ∧
        (engine.validateRows [.object [("a", .null)], .null]).calls = []) ∧
    ∃ engine, ofSchema schema OrderedMap.empty { idKey := some "id" } = .ok engine ∧
      (∀ row ∈ rows, row.kind = .object) ∧ ∃ findings report, engine.validateRows rows = .ok report ∧
        List.Forall₂ (Finds engine) rows.zipIdx findings ∧
        report.result.records.toList = findings.flatMap (·.records) ∧
        (report.result.records.toList.map (·.rowId)) =
          [some (.string "row-1"), some (.string "row-1"), some (.string "row-1"), some (.string "row-1"),
            some .null, some .null] ∧
        (report.result.forRow (.string "row-1")).records.size = 4 := by
  intro schema rows
  refine ⟨fun engine => ?_, _, rfl, by simp [rows, Json.kind], ?_⟩
  · obtain ⟨hrefused, hcalls, -⟩ := validateRows_spec engine [.object [("a", .null)], .null]
    have hnull := (hrefused (.invalidShape .null)).2 ⟨[.object [("a", .null)]], .null, [], rfl, by simp [Json.kind]⟩
    exact ⟨hnull, hcalls _ hnull⟩
  · obtain ⟨findings, report, hreport, hfindings, hrecords, -, -⟩ :=
      (validateRows_spec _ rows).2.2 (by simp [rows, Json.kind])
    obtain rfl := Traced.ok_inj.1 hreport
    refine ⟨findings, _, hreport, hfindings, hrecords, ?_, ?_⟩
    · rfl
    · rfl

end FieldRules.Engine.Validation
