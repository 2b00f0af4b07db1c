import FieldRules.Command.Output
import FieldRules.Proofs.Json.SameValue

/-!
The human form of a report. It is laid out record by record, with a heading wherever another row begins; the lines that
are no headings are those that the report renders to.
-/

namespace FieldRules.Command

/-- What the lines of a report are about: a row that begins, or a record. -/
inductive Mark where
  | row (rowId : Json)
  | record (r : Record)

namespace Mark

def rowId? : Mark → Option Json
  | row rowId => some rowId
  | record _ => none

def record? : Mark → Option Record
  | row _ => none
  | record r => some r

/-- The line of a mark. A record without a message in the locale has none. -/
def lines (style : ReportStyle) (inRow : Bool) : Mark → List String
  | row rowId => [rowLine rowId]
  | record r => ((r.render? style.locale style.template).map (recordLine inRow)).toList

end Mark

/-- The row that begins last. -/
def lastRow? (marks : List Mark) : Option Json := (marks.filterMap Mark.rowId?).getLast?

/-- The record that comes last. -/
def lastRecord? (marks : List Mark) : Option Record := (marks.filterMap Mark.record?).getLast?

/-- The words of a record's line, without the indent and the dash before them. -/
def wordsOf (inRow : Bool) (line : String) : String :=
  String.ofList (line.toList.drop (if inRow then 6 else 4))

/-- The marks lay out the records in order, each below the heading of its own row, if they belong to rows at all. -/
structure Arranged (inRow : Bool) (records : List Record) (marks : List Mark) : Prop where
  records : marks.filterMap Mark.record? = records
  /-- A heading stands just before a record of its row, and the record before that one is of another row. -/
  headings : ∀ above rowId, above ++ [.row rowId] <+: marks → inRow = true ∧
    ∃ r, above ++ [.row rowId, .record r] <+: marks ∧ r.rowId = some rowId ∧
      ∀ previous ∈ lastRecord? above, ∀ id ∈ previous.rowId, id.sameValue rowId = false
  /-- The nearest heading above a record is that of its row. -/
  rows : inRow = true → ∀ above r, above ++ [.record r] <+: marks →
    ∃ rowId ∈ lastRow? above, ∃ id ∈ r.rowId, rowId.sameValue id = true

theorem lastRow?_append_row (marks : List Mark) (rowId : Json) : lastRow? (marks ++ [.row rowId]) = some rowId := by
  simp [lastRow?, Mark.rowId?]

theorem lastRow?_append_record (marks : List Mark) (r : Record) : lastRow? (marks ++ [.record r]) = lastRow? marks := by
  simp [lastRow?, Mark.rowId?]

theorem lastRecord?_append_record (marks : List Mark) (r : Record) :
    lastRecord? (marks ++ [.record r]) = some r := by
  simp [lastRecord?, Mark.record?]

/-- What leads up to a mark is all that stands before the last one, or leads up to an earlier one. -/
theorem prefix_append_singleton_iff {above marks : List Mark} {mark last : Mark} :
    above ++ [mark] <+: marks ++ [last] ↔ above = marks ∧ mark = last ∨ above ++ [mark] <+: marks := by
  rw [List.prefix_concat_iff]
  refine or_congr_left ⟨fun heq => ?_, by rintro ⟨rfl, rfl⟩; rfl⟩
  obtain ⟨habove, hmark⟩ := List.append_inj' heq rfl
  exact ⟨habove, (List.cons.inj hmark).1⟩

namespace Arranged

variable {inRow : Bool} {records : List Record} {marks : List Mark} {r : Record} {rowId : Json}

theorem nil (inRow : Bool) : Arranged inRow [] [] := by
  refine ⟨rfl, ?_, ?_⟩ <;> simp

/-- No heading stands last, as there is a record behind each. -/
theorem eq_nil_or_append_record (h : Arranged inRow records marks) :
    marks = [] ∨ ∃ above r, marks = above ++ [.record r] := by
  rcases List.eq_nil_or_concat' marks with rfl | ⟨above, mark, rfl⟩
  · exact .inl rfl
  · cases mark with
    | row rowId =>
      obtain ⟨-, r, hlonger, -⟩ := h.headings above rowId List.prefix_rfl
      have hlength := hlonger.length_le
      simp at hlength
    | record r => exact .inr ⟨above, r, rfl⟩

/-- The last record is of the row that began last. -/
theorem exists_lastRow? (h : Arranged true records marks) {last : Record} (hlast : last ∈ lastRecord? marks) :
    ∃ rowId ∈ lastRow? marks, ∃ id ∈ last.rowId, rowId.sameValue id = true := by
  rcases h.eq_nil_or_append_record with rfl | ⟨above, r, rfl⟩
  · cases hlast
  · rw [lastRecord?_append_record, Option.mem_some_iff] at hlast
    subst hlast
    rw [lastRow?_append_record]
    exact h.rows rfl above r List.prefix_rfl

/-- Without rows no row begins. -/
theorem lastRow?_eq_none (h : Arranged false records marks) : lastRow? marks = none := by
  rw [lastRow?, List.getLast?_eq_none_iff, List.filterMap_eq_nil_iff]
  intro mark hmark
  cases mark with
  | row rowId =>
    obtain ⟨above, below, rfl⟩ := List.append_of_mem hmark
    obtain ⟨hin, -⟩ := h.headings above rowId ⟨below, by simp⟩
    cases hin
  | record r => rfl

/-- A record of the row that began last goes below its heading. -/
theorem append_record (h : Arranged inRow records marks)
    (hrow : inRow = true → ∃ rowId ∈ lastRow? marks, ∃ id ∈ r.rowId, rowId.sameValue id = true) :
    Arranged inRow (records ++ [r]) (marks ++ [.record r]) := by
  refine ⟨by simp [h.records, Mark.record?], fun above rowId habove => ?_, fun hin above x habove => ?_⟩
  · rcases prefix_append_singleton_iff.1 habove with ⟨-, heq⟩ | hbefore
    · cases heq
    · obtain ⟨hin, x, hx, hrest⟩ := h.headings above rowId hbefore
      exact ⟨hin, x, hx.trans (List.prefix_append _ _), hrest⟩
  · rcases prefix_append_singleton_iff.1 habove with ⟨rfl, heq⟩ | hbefore
    · cases heq
      exact hrow hin
    · exact h.rows hin above x hbefore

/-- A record of another row than the one that began last goes below a heading of its own. -/
theorem append_row (h : Arranged true records marks) (hid : r.rowId = some rowId)
    (hother : ∀ current ∈ lastRow? marks, current.sameValue rowId = false) (hself : rowId.sameValue rowId = true) :
    Arranged true (records ++ [r]) (marks ++ [.row rowId] ++ [.record r]) := by
  refine ⟨?_, fun above id habove => ⟨rfl, ?_⟩, fun _ above x habove => ?_⟩
  · rw [List.append_assoc, List.filterMap_append, h.records]
    rfl
  · rcases prefix_append_singleton_iff.1 habove with ⟨-, heq⟩ | hbefore
    · cases heq
    rcases prefix_append_singleton_iff.1 hbefore with ⟨rfl, heq⟩ | hbefore
    · cases heq
      refine ⟨r, by simp, hid, fun previous hprevious previousId hpreviousId => ?_⟩
      -- The record before is of the row that began last, so that it cannot be of this one.
      obtain ⟨current, hcurrent, _, hpreviousId', hsame⟩ := h.exists_lastRow? hprevious
      obtain rfl := Option.mem_unique hpreviousId hpreviousId'
      by_contra hequal
      have hcurrentSame := Json.sameValue_trans hsame (Bool.not_eq_false _ ▸ hequal)
      rw [hother current hcurrent] at hcurrentSame
      cases hcurrentSame
    · obtain ⟨-, x, hx, hrest⟩ := h.headings above id hbefore
      exact ⟨x, hx.trans (by simp), hrest⟩
  · rcases prefix_append_singleton_iff.1 habove with ⟨rfl, heq⟩ | hbefore
    · cases heq
      exact ⟨rowId, lastRow?_append_row _ _, rowId, hid, hself⟩
    rcases prefix_append_singleton_iff.1 hbefore with ⟨-, heq⟩ | hbefore
    · cases heq
    · exact h.rows rfl above x hbefore

/-- As soon as there are marks, a row has begun, if records belong to rows. -/
theorem isSome_lastRow? (h : Arranged inRow records marks) (hne : marks ≠ []) : (lastRow? marks).isSome = inRow := by
  cases inRow with
  | false => rw [h.lastRow?_eq_none, Option.isSome_none]
  | true =>
    obtain ⟨above, r, rfl⟩ := h.eq_nil_or_append_record.resolve_left hne
    obtain ⟨rowId, hrowId, -⟩ := h.rows rfl above r List.prefix_rfl
    rw [lastRow?_append_record, hrowId, Option.isSome_some]

end Arranged

/-- The marks of one more record. -/
def marksOf (current : Option Json) (r : Record) : List Mark :=
  (if opensRow current r then (r.rowId.map Mark.row).toList else []) ++ [.record r]

section Lines

variable {inRow : Bool} {records rest : List Record} {marks : List Mark} {r : Record}

theorem opensRow_of_rowId {current : Option Json} {rowId : Json} (hid : r.rowId = some rowId) :
    opensRow current r = true ↔ ∀ id ∈ current, id.sameValue rowId = false := by
  cases current <;> simp [opensRow, hid]

theorem lastRow?_append_marksOf (marks : List Mark) (r : Record) :
    lastRow? (marks ++ marksOf (lastRow? marks) r) =
      if opensRow (lastRow? marks) r then r.rowId else lastRow? marks := by
  rw [marksOf, ← List.append_assoc, lastRow?_append_record]
  split
  · next hopens =>
    obtain ⟨rowId, hid, -⟩ := (Option.any_eq_true _ _).1 hopens
    rw [hid]
    exact lastRow?_append_row marks rowId
  · rw [List.append_nil]

/-- One more record leaves all as it should be. -/
theorem Arranged.append_marksOf (h : Arranged inRow records marks) (hrow : r.rowId.isSome = inRow)
    (hid : ∀ rowId ∈ r.rowId, rowId.WellFormed) :
    Arranged inRow (records ++ [r]) (marks ++ marksOf (lastRow? marks) r) := by
  rw [marksOf, ← List.append_assoc]
  cases hr : r.rowId with
  | none =>
    have hopens : opensRow (lastRow? marks) r = false := by simp [opensRow, hr]
    rw [hopens, if_neg Bool.false_ne_true, List.append_nil]
    refine h.append_record fun hin => ?_
    rw [hr, hin] at hrow
    cases hrow
  | some rowId =>
    obtain rfl : true = inRow := by simpa [hr] using hrow
    by_cases hopens : opensRow (lastRow? marks) r = true
    · rw [if_pos hopens]
      exact h.append_row hr ((opensRow_of_rowId hr).1 hopens) (Json.sameValue_refl (hid rowId hr))
    · rw [if_neg hopens, List.append_nil]
      refine h.append_record fun _ => ?_
      have hcurrent := mt (opensRow_of_rowId hr).2 hopens
      push Not at hcurrent
      obtain ⟨current, hcurrent, hsame⟩ := hcurrent
      exact ⟨current, hcurrent, rowId, hr, by simpa using hsame⟩

/-- The lines of one more record. -/
theorem lines_marksOf (style : ReportStyle) (inRow : Bool) (current : Option Json) (r : Record) :
    (marksOf current r).flatMap (Mark.lines style inRow) =
      (if opensRow current r then (r.rowId.map rowLine).toList else []) ++
        ((r.render? style.locale style.template).map (recordLine inRow)).toList := by
  rw [marksOf, List.flatMap_append, List.flatMap_singleton]
  congr 1
  split
  · cases r.rowId <;> rfl
  · rfl

/-- The lines of a report are those of marks that lay out its records. -/
theorem exists_arranged (style : ReportStyle) (h : Arranged inRow records marks)
    (hrows : ∀ r ∈ rest, r.rowId.isSome = inRow)
    (hids : ∀ r ∈ rest, ∀ rowId ∈ r.rowId, rowId.WellFormed) :
    ∃ more, recordLines style (lastRow? marks) rest = more.flatMap (Mark.lines style inRow) ∧
      Arranged inRow (records ++ rest) (marks ++ more) := by
  induction rest generalizing records marks with
  | nil => exact ⟨[], rfl, by simpa using h⟩
  | cons r rest ih =>
    obtain ⟨hrow, hrows⟩ := List.forall_mem_cons.1 hrows
    obtain ⟨hid, hids⟩ := List.forall_mem_cons.1 hids
    have hnext := h.append_marksOf hrow hid
    have hcurrent := hnext.isSome_lastRow? (by simp [marksOf])
    obtain ⟨more, hlines, harranged⟩ := ih hnext hrows hids
    refine ⟨marksOf (lastRow? marks) r ++ more, ?_, by simpa using harranged⟩
    rw [lastRow?_append_marksOf] at hlines hcurrent
    rw [recordLines, List.flatMap_append, ← hlines, hcurrent, lines_marksOf]

/-- The words of a line are those that the record renders to. -/
theorem wordsOf_recordLine (inRow : Bool) (words : String) : wordsOf inRow (recordLine inRow words) = words := by
  cases inRow <;> simp [wordsOf, recordLine]

/-- Without the headings, the lines are those that the records render to. -/
theorem words_lines (style : ReportStyle) (inRow : Bool) (marks : List Mark) :
    ((marks.filter (·.rowId?.isNone)).flatMap (Mark.lines style inRow)).map (wordsOf inRow) =
      (marks.filterMap Mark.record?).filterMap (·.render? style.locale style.template) := by
  induction marks with
  | nil => rfl
  | cons mark marks ih =>
    cases mark with
    | row rowId =>
      rw [List.filter_cons_of_neg (by simp [Mark.rowId?]), ih]
      rfl
    | record r =>
      have hlines : (Mark.lines style inRow (.record r)).map (wordsOf inRow) =
          (r.render? style.locale style.template).toList := by
        cases hwords : r.render? style.locale style.template <;> simp [Mark.lines, hwords, wordsOf_recordLine]
      rw [List.filter_cons_of_pos rfl, List.flatMap_cons, List.map_append, ih, hlines]
      cases hwords : r.render? style.locale style.template <;> simp [Mark.record?, hwords]

end Lines

/-- The report has a line for each record that renders, in order, below the heading of its own row if records belong to
rows; a heading stands where another row begins, and nowhere else. A joiner puts the words of the same records together.
The identities of rows are values of documents: no object in one has a key twice. -/
theorem humanReport_spec (style : ReportStyle) (report : Report) :
    (style.join = none → ∀ inRow : Bool, (∀ r ∈ report.records.toList, r.rowId.isSome = inRow) →
      (∀ r ∈ report.records.toList, ∀ rowId ∈ r.rowId, rowId.WellFormed) →
      ∃ marks : List Mark, Arranged inRow report.records.toList marks ∧
        recordLines style none report.records.toList = marks.flatMap (Mark.lines style inRow) ∧
        humanReport style report = "\n".intercalate (marks.flatMap (Mark.lines style inRow)) ∧
        ((marks.filter (·.rowId?.isNone)).flatMap (Mark.lines style inRow)).map (wordsOf inRow) =
          report.render style.locale style.template) ∧
    ∀ join, style.join = some join →
      humanReport style report = join.intercalate (report.render style.locale style.template) ∧
      (report.render style.locale style.template ≠ [] →
        report.collapse? style.locale style.template (some join) = some (humanReport style report)) ∧
      (report.render style.locale style.template = [] → humanReport style report = "") := by
  refine ⟨fun hjoin inRow hrows hids => ?_, fun join hjoin => ?_⟩
  · obtain ⟨marks, hlines, harranged⟩ := exists_arranged style (Arranged.nil inRow) hrows hids
    refine ⟨marks, by simpa using harranged, hlines, ?_, ?_⟩
    · rw [humanReport, hjoin, ← hlines]
      rfl
    · have hrecords : marks.filterMap Mark.record? = report.records.toList := by simpa using harranged.records
      rw [words_lines, hrecords, Report.render]
  · simp only [humanReport, hjoin, Report.collapse?]
    cases report.render style.locale style.template <;> simp

/-- Two records of a row, the second without a message, one of another row, and one of the first again. -/
theorem humanReport_spec_rows :
    let record (target locale message : String) (rowId : Json) : Record :=
      .withMessage { target, validator := "V", value := .null, rowId := some rowId } locale message
    let report : Report := { records := #[record "email" "en" "is invalid" (.string "u1"),
      record "name" "de" "fehlt" (.string "u1"), record "age" "en" "too small" (.ofNat 7),
      record "name" "en" "too short" (.string "u1")] }
    let style : ReportStyle := { locale := "en", template := "%target: %message" }
    humanReport style report = "u1:\n    - email: is invalid\n7:\n    - age: too small\nu1:\n    - name: too short" ∧
    (∀ r ∈ report.records.toList, r.rowId.isSome = true) ∧
    (∀ r ∈ report.records.toList, ∀ rowId ∈ r.rowId, rowId.WellFormed) ∧
    ∃ marks : List Mark, Arranged true report.records.toList marks ∧
      recordLines style none report.records.toList = marks.flatMap (Mark.lines style true) ∧
      humanReport style report = "\n".intercalate (marks.flatMap (Mark.lines style true)) ∧
      ((marks.filter (·.rowId?.isNone)).flatMap (Mark.lines style true)).map (wordsOf true) =
        report.render style.locale style.template := by
  intro record report style
  have htext : humanReport style report =
      "u1:\n    - email: is invalid\n7:\n    - age: too small\nu1:\n    - name: too short" := by
    decide +kernel +revert
  have hrows : ∀ r ∈ report.records.toList, r.rowId.isSome = true := by
    simp [report, record, Record.withMessage]
  have hids : ∀ r ∈ report.records.toList, ∀ rowId ∈ r.rowId, rowId.WellFormed := by
    simp [report, record, Record.withMessage, Json.WellFormed, Json.ofNat]
  exact ⟨htext, hrows, hids, (humanReport_spec style report).1 rfl true hrows hids⟩

end FieldRules.Command
