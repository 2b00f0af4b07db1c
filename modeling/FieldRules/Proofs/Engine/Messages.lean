import FieldRules.Proofs.Engine.Documents
import FieldRules.Proofs.Report.Render

/-!
The messages of what an engine finds. Whatever the fault, its record has a message in the locale of the engine,
so that rendering in this locale loses no fault.
-/

namespace FieldRules

namespace Record

variable {r : Record} {locale : String}

theorem hasMessage_withMessage (r : Record) (locale message : String) :
    (r.withMessage locale message).HasMessage locale := by
  simp [HasMessage, message?, withMessage]

/-- Filing a record under a row leaves its messages as they are. -/
theorem message?_tagged (r : Record) (rowId : Option Json) (locale : String) :
    (r.tagged rowId).message? locale = r.message? locale := by
  cases rowId <;> rfl

theorem HasMessage.tagged (h : r.HasMessage locale) (rowId : Option Json) :
    (r.tagged rowId).HasMessage locale := by
  rwa [HasMessage, message?_tagged]

end Record

namespace Engine.Validation

/-- In the active locale a refusal always has a message. The text given with the use and the function's own do
not count in any other. -/
theorem get?_messages (locale other : String) (spec : ValidatorSpec) (rule : FieldRule) (complaint : Complaint) :
    (messages locale spec rule complaint).get? other =
      if other = locale then
        some ((((spec.localized.get? locale).or (rule.localized.get? locale)).or spec.error).getD complaint)
      else (spec.localized.get? other).or (rule.localized.get? other) := by
  have hempty : (OrderedMap.empty : Localized).get? other = none := rfl
  rw [messages, OrderedMap.get?_foldl_insertIfNew, Assoc.find?_append, OrderedMap.get?_insert, hempty]
  by_cases hother : other = locale
  · simp [hother]
  · simp [hother, Ne.symm hother, OrderedMap.get?]

theorem hasMessage_of_mem_valueRecords {locale path : String} {rule : ValidationRule} {value : Json} {r : Record}
    (hr : r ∈ (valueRecords locale rule path value).result) : r.HasMessage locale := by
  rw [valueRecords] at hr
  cases hrefusal : (firstRefusal value rule.chain).result with
  | none => simp [hrefusal] at hr
  | some refusal =>
    obtain rfl := List.mem_singleton.1 (by simpa only [hrefusal] using hr)
    simp [Record.HasMessage, Record.message?, get?_messages]

/-- Each of the three ways in which a rule makes records gives them a message. -/
theorem hasMessage_of_mem_block {locale : String} {view : FlatView} {rule : ValidationRule} {r : Record}
    (hr : r ∈ (block locale view rule).result) : r.HasMessage locale := by
  rw [block] at hr
  split at hr
  · -- Nothing is addressed.
    split at hr
    · obtain rfl := List.mem_singleton.1 hr
      exact Record.hasMessage_withMessage _ _ _
    · cases hr
  · split at hr
    · -- A dependency is missing.
      obtain rfl := List.mem_singleton.1 hr
      exact Record.hasMessage_withMessage _ _ _
    · -- The values are checked.
      obtain ⟨part, hpart, hr⟩ := List.mem_flatMap.1 hr
      obtain ⟨entry, -, rfl⟩ := List.mem_map.1 hpart
      exact hasMessage_of_mem_valueRecords hr

section Reports

variable {engine : Validation} {found : Traced Report} {r : Record}

theorem hasMessage_of_mem_viewRecords {view : FlatView} {rowId : Option Json}
    (hr : r ∈ (engine.viewRecords view rowId).result) : r.HasMessage engine.settings.locale := by
  obtain ⟨untagged, huntagged, rfl⟩ := List.mem_map.1 hr
  obtain ⟨found, hfound, hmem⟩ := List.mem_flatMap.1 huntagged
  obtain ⟨rule, -, rfl⟩ := List.mem_map.1 hfound
  exact (hasMessage_of_mem_block hmem).tagged rowId

theorem hasMessage_of_mem_validate {data : Json} (hfound : engine.validate data = .ok found)
    (hr : r ∈ found.result.records.toList) : r.HasMessage engine.settings.locale := by
  obtain ⟨filed, hcovers⟩ := (Gives.validate hfound).exists_covers
  rw [hcovers.records] at hr
  obtain ⟨entry, -, hmem⟩ := List.mem_flatMap.1 hr
  exact hasMessage_of_mem_viewRecords hmem

end Reports

/-- No fault is lost in rendering: each record that an engine reports has a message in the engine's locale, so
each gives a line in it. In any other locale the records that have a message there give one each. -/
theorem render_validate {schema : Schema} {registry : Registry Validator} {settings : Settings}
    {engine : Validation} (hengine : ofSchema schema registry settings = .ok engine) {data : Json}
    {found : Traced Report} (hfound : engine.validate data = .ok found) :
    let report := found.result
    let records := report.records.toList
    (∀ r ∈ records, r.HasMessage settings.locale) ∧
    (∀ template, List.Forall₂ (fun r line => r.Line settings.locale template line) records
      (report.render settings.locale template)) ∧
    (∀ template join, report.collapse? settings.locale template join = none ↔ report.hasErrors = false) ∧
    ∀ locale template,
      List.Forall₂ (fun r line => r.Line locale template line) (records.filter fun r => r.HasMessage locale)
        (report.render locale template) ∧
      ∀ join, report.collapse? locale template join = none ↔ ∀ r ∈ records, ¬ r.HasMessage locale := by
  obtain ⟨rfl, -⟩ := ofSchema_spec hengine
  have hmessages : ∀ r ∈ found.result.records.toList, r.HasMessage engine.settings.locale :=
    fun _ hr => hasMessage_of_mem_validate hfound hr
  exact ⟨hmessages, Report.forall₂_render_of_hasMessage hmessages,
    fun _ _ => Report.collapse?_eq_none_iff_of_hasMessage hmessages,
    fun locale template => ⟨Report.forall₂_render _ locale template, fun _ => Report.collapse?_eq_none_iff⟩⟩

/-- A refusal has a message in a second locale, and what is required or depends on something else has none
there. -/
theorem render_validate_rows :
    let registry : Registry Validator := OrderedMap.ofList [("never", fun _ _ => .error "refused")]
    let schema : Schema := { rules := [
      { target := "a", validators := [{ name := "never", localized := .ofList [("fr", "non")] }] },
      { target := "b", required := true },
      { target := "a", dependencies := ["c"] }] }
    ∃ engine found, ofSchema schema registry { locale := "de" } = .ok engine ∧
      engine.validate (.array [.object [("a", .bool true)], .object []]) = .ok found ∧
      (∀ r ∈ found.result.records.toList, r.HasMessage "de") ∧
      List.Forall₂ (fun r line => r.Line "de" "%target: %message" line) found.result.records.toList
        (found.result.render "de" "%target: %message") ∧
      (found.result.collapse? "de" "%target: %message" = none ↔ found.result.hasErrors = false) ∧
      found.result.render "de" "%target: %message" =
        ["a: refused", "b: this field is required", "a: this field depends on other values which do not exist",
          "b: this field is required"] ∧
      found.result.collapse? "fr" "%target: %message" = some "a: non" ∧
      ((found.result.collapse? "en" "%target: %message" = none ↔
        ∀ r ∈ found.result.records.toList, ¬ r.HasMessage "en") ∧
        found.result.collapse? "en" "%target: %message" = none) := by
  intro registry schema
  obtain ⟨engine, hengine⟩ : ∃ engine, ofSchema schema registry { locale := "de" } = .ok engine := ⟨_, rfl⟩
  obtain ⟨found, hfound⟩ : ∃ found,
      engine.validate (.array [.object [("a", .bool true)], .object []]) = .ok found := by
    cases hengine
    exact ⟨_, rfl⟩
  obtain ⟨hmessages, hlines, hcollapse, hothers⟩ := render_validate hengine hfound
  refine ⟨engine, found, hengine, hfound, hmessages, hlines _, hcollapse _ _, ?_, ?_, (hothers "en" _).2 _, ?_⟩
  all_goals
    cases hengine
    obtain rfl := Traced.ok_inj.1 hfound
    rfl

end Engine.Validation

end FieldRules
