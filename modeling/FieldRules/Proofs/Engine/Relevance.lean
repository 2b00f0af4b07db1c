import FieldRules.Proofs.Engine.Rows
import Mathlib.Data.List.Find

/-!
What of a document matters to an engine. A rule sees the entries that its target addresses and whether its
dependencies address something. So two documents in which this is the same lead to the same report, whatever
else they hold.
-/

namespace FieldRules

/-- The entries of a view that the pattern of a text addresses, in view order. -/
def FlatView.addressed (view : FlatView) (separator text : String) : List (String × Json) :=
  view.entries.filter fun entry => Pattern.addresses separator text entry.1

/-- The rules of a schema see the same in two views: each target addresses the same entries in the same order,
and each dependency addresses something in both views or in neither. -/
structure FlatView.Alike (view other : FlatView) (schema : Schema) (separator : String) : Prop where
  targets : ∀ rule ∈ schema.rules, view.addressed separator rule.target = other.addressed separator rule.target
  dependencies : ∀ rule ∈ schema.rules, ∀ dependency ∈ rule.dependencies,
    view.HasMatch separator dependency ↔ other.HasMatch separator dependency

section View

variable {view other : FlatView} {separator text : String}

theorem FlatView.entries_findMatches_eq_addressed (view : FlatView) (p : Pattern) :
    (view.findMatches p).entries = view.addressed p.separator p.text := by
  simp only [entries_findMatches, addressed, Pattern.addresses_text]

theorem FlatView.hasMatch_iff_addressed_ne_nil : view.HasMatch separator text ↔ view.addressed separator text ≠ [] := by
  simp [HasMatch, addressed, OrderedMap.keys, Assoc.keys]

end View

namespace Engine.Validation

/-- What a rule reports without a look at any value: that its field is required, if nothing is addressed, or that
a dependency is missing. `none` if the addressed values are to be checked. -/
def gateRecords? (locale : String) (view : FlatView) (ready : ValidationRule) : Option (List Record) :=
  let target := ready.compiled.rule.target
  if (view.findMatches ready.compiled.pattern).isEmpty then
    some (if ready.compiled.rule.required then [requiredRecord locale target] else [])
  else
    (ready.compiled.missingDependency? view).map fun missing => [dependencyRecord locale target missing.text]

/-- What checking values reports, one value after the other. -/
def checkedEntries (locale : String) (ready : ValidationRule) (entries : List (String × Json)) :
    Traced (List Record) :=
  let parts := entries.map fun entry => valueRecords locale ready entry.1 entry.2
  ⟨parts.flatMap (·.calls), parts.flatMap (·.result)⟩

/-- Values are checked only if no gate is closed, and then just those that are addressed. -/
theorem block_eq (locale : String) (view : FlatView) (ready : ValidationRule) :
    block locale view ready =
      match gateRecords? locale view ready with
      | some records => ⟨[], records⟩
      | none => checkedEntries locale ready (view.findMatches ready.compiled.pattern).entries := by
  rw [block, gateRecords?, OrderedMap.isEmpty]
  cases (view.findMatches ready.compiled.pattern).entries.isEmpty with
  | true => rfl
  | false => cases ready.compiled.missingDependency? view <;> rfl

section Rule

variable {registry : Registry Validator} {settings : Settings} {rule : FieldRule} {ready : ValidationRule}
  {view other : FlatView}

theorem Readies.entries_findMatches (h : Readies registry settings rule ready) (view : FlatView) :
    (view.findMatches ready.compiled.pattern).entries = view.addressed settings.separator rule.target := by
  obtain ⟨-, htext, hseparator, -, -⟩ := CompiledRule.compile_spec h.compiled
  rw [FlatView.entries_findMatches_eq_addressed, htext, hseparator]

/-- The gates depend on nothing but whether the target and the dependencies address something. -/
theorem Readies.gateRecords?_congr (h : Readies registry settings rule ready)
    (htarget : view.HasMatch settings.separator rule.target ↔ other.HasMatch settings.separator rule.target)
    (hdependencies : ∀ dependency ∈ rule.dependencies,
      view.HasMatch settings.separator dependency ↔ other.HasMatch settings.separator dependency) :
    gateRecords? settings.locale view ready = gateRecords? settings.locale other ready := by
  obtain ⟨-, htext, hseparator, hrule, hseparators⟩ := CompiledRule.compile_spec h.compiled
  have hempty {p : Pattern} (hp : p.separator = settings.separator)
      (hmatch : view.HasMatch settings.separator p.text ↔ other.HasMatch settings.separator p.text) :
      (view.findMatches p).isEmpty = (other.findMatches p).isEmpty := by
    rw [← hp, FlatView.hasMatch_text_iff, FlatView.hasMatch_text_iff] at hmatch
    rwa [← Bool.not_inj_iff, Bool.eq_iff_iff, Bool.not_eq_true', Bool.not_eq_true']
  have hmissing : ready.compiled.missingDependency? view = ready.compiled.missingDependency? other := by
    refine List.find?_congr fun dependency hmem => hempty (hseparators dependency hmem) ?_
    exact hdependencies dependency.text (hrule ▸ List.mem_map_of_mem hmem)
  rw [gateRecords?, gateRecords?, hempty hseparator (htext.symm ▸ htarget), hmissing]

theorem Readies.block_congr (h : Readies registry settings rule ready)
    (htarget : view.addressed settings.separator rule.target = other.addressed settings.separator rule.target)
    (hdependencies : ∀ dependency ∈ rule.dependencies,
      view.HasMatch settings.separator dependency ↔ other.HasMatch settings.separator dependency) :
    block settings.locale view ready = block settings.locale other ready := by
  have hmatch : view.HasMatch settings.separator rule.target ↔ other.HasMatch settings.separator rule.target := by
    rw [FlatView.hasMatch_iff_addressed_ne_nil, FlatView.hasMatch_iff_addressed_ne_nil, htarget]
  rw [block_eq, block_eq, h.gateRecords?_congr hmatch hdependencies, h.entries_findMatches, h.entries_findMatches,
    htarget]

end Rule

section Engine

variable {schema : Schema} {registry : Registry Validator} {settings : Settings} {engine : Validation}
  (hengine : ofSchema schema registry settings = .ok engine)

include hengine

/-- Views in which the rules see the same have the same records. -/
theorem viewRecords_congr {view other : FlatView} (halike : view.Alike other schema settings.separator)
    (rowId : Option Json) : engine.viewRecords view rowId = engine.viewRecords other rowId := by
  obtain ⟨hsettings, hrules⟩ := ofSchema_spec hengine
  have hblocks : engine.rules.map (block settings.locale view) = engine.rules.map (block settings.locale other) := by
    refine List.map_congr_left fun ready hready => ?_
    obtain ⟨rule, hrule, hreadies⟩ := exists_left_of_forall₂ hrules hready
    exact hreadies.block_congr (halike.targets rule hrule) (halike.dependencies rule hrule)
  rw [viewRecords, viewRecords, hsettings, hblocks]

/-- A row's report depends on what the rules see in the row and on what identifies it. -/
theorem rowReport_congr {row other : Json}
    (halike : (row.flatten settings.separator).Alike (other.flatten settings.separator) schema settings.separator)
    (hid : ∀ path, settings.idKey = some path →
      (row.flatten settings.separator).get? path = (other.flatten settings.separator).get? path)
    (position : Nat) : engine.rowReport position row = engine.rowReport position other := by
  obtain ⟨rfl, -⟩ := ofSchema_spec hengine
  have hrowId : engine.rowId (row.flatten engine.settings.separator) position =
      engine.rowId (other.flatten engine.settings.separator) position := by
    rw [rowId, rowId, Option.bind_congr hid]
  rw [rowReport, rowReport, hrowId, viewRecords_congr hengine halike]

end Engine

/-- The rows are objects in which the rules see the same and which have the same value, or none, at the path that
identifies rows. -/
structure AlikeRows (schema : Schema) (settings : Settings) (row other : Json) : Prop where
  object : row.kind = .object ∧ other.kind = .object
  alike : (row.flatten settings.separator).Alike (other.flatten settings.separator) schema settings.separator
  id : ∀ path, settings.idKey = some path →
    (row.flatten settings.separator).get? path = (other.flatten settings.separator).get? path

/-- What no rule addresses does not show in a report: objects in which the rules see the same have the same report,
with the same calls of functions, and so do lists of rows that pair by pair look the same to the rules and have the
same identities. -/
theorem validate_congr {schema : Schema} {registry : Registry Validator} {settings : Settings}
    {engine : Validation} (hengine : ofSchema schema registry settings = .ok engine) :
    (∀ members others rowId, ((Json.object members).flatten settings.separator).Alike
        ((Json.object others).flatten settings.separator) schema settings.separator →
      ∃ report, engine.validateObject (.object members) rowId = .ok report ∧
        engine.validateObject (.object others) rowId = .ok report) ∧
    ∀ rows others, List.Forall₂ (AlikeRows schema settings) rows others →
      ∃ report, engine.validateRows rows = .ok report ∧ engine.validateRows others = .ok report := by
  obtain ⟨hsettings, -⟩ := ofSchema_spec hengine
  refine ⟨fun members others rowId halike => ?_, fun rows others halike => ?_⟩
  · refine ⟨_, rfl, ?_⟩
    rw [validateObject, hsettings, viewRecords_congr hengine halike]
  · have hrows : ∀ row ∈ rows, row.kind = .object := fun row hrow =>
      have ⟨_, _, h⟩ := exists_right_of_forall₂ halike hrow
      h.object.1
    have hothers : ∀ other ∈ others, other.kind = .object := fun other hother =>
      have ⟨_, _, h⟩ := exists_left_of_forall₂ halike hother
      h.object.2
    have hreports : rows.mapIdx engine.rowReport = others.mapIdx engine.rowReport := by
      subst hsettings
      exact mapIdx_eq_mapIdx_of_forall₂ halike fun position row other h =>
        rowReport_congr hengine h.alike h.id position
    refine ⟨_, by rw [validateRows, misshapenRow?_eq_none_iff.2 hrows], ?_⟩
    rw [validateRows, misshapenRow?_eq_none_iff.2 hothers, hreports]

/-- Two objects that share what a wildcard addresses, and what a dependency asks for with another value. -/
theorem validate_congr_unaddressed :
    let registry : Registry Validator := OrderedMap.ofList [("never", fun _ _ => .error "refused")]
    let schema : Schema := { rules := [
      { target := "a.*", validators := [{ name := "never" }], dependencies := ["c"] },
      { target := "b", required := true }] }
    let members : List (String × Json) :=
      [("a", .array [.null, .object [("x", .null)]]), ("c", .null), ("id", .string "first")]
    let others : List (String × Json) :=
      [("id", .string "first"), ("c", .bool true), ("y", .object [("z", .array [])]), ("a", .array [.null])]
    ∃ engine, ofSchema schema registry { idKey := some "id" } = .ok engine ∧
      AlikeRows schema { idKey := some "id" } (.object members) (.object others) ∧
      (∃ report, engine.validateObject (.object members) none = .ok report ∧
        engine.validateObject (.object others) none = .ok report ∧
        report.result.records.toList.map (fun r => (r.target, r.validator)) =
          [("a.0", "never"), ("b", "is-required")]) ∧
      ∃ report, engine.validateRows [.object members, .object members] = .ok report ∧
        engine.validateRows [.object others, .object others] = .ok report ∧
        report.result.records.toList.map (fun r => (r.target, r.rowId)) =
          [("a.0", some (.string "first")), ("b", some (.string "first")), ("a.0", some (.string "first")),
            ("b", some (.string "first"))] := by
  intro registry schema members others
  obtain ⟨engine, hengine⟩ : ∃ engine, ofSchema schema registry { idKey := some "id" } = .ok engine := ⟨_, rfl⟩
  have halike : AlikeRows schema { idKey := some "id" } (.object members) (.object others) := by
    refine ⟨⟨rfl, rfl⟩, ⟨?_, ?_⟩, ?_⟩
    · simpa [schema] using ⟨by decide, by decide⟩
    · simpa [schema] using iff_of_true ⟨"c", by decide, by decide⟩ ⟨"c", by decide, by decide⟩
    · rintro path ⟨rfl⟩
      decide
  obtain ⟨hobject, hrows⟩ := validate_congr hengine
  obtain ⟨report, hreport, hsame⟩ := hobject members others none halike.alike
  obtain ⟨collected, hcollected, hsameRows⟩ := hrows [.object members, .object members]
    [.object others, .object others] (.cons halike (.cons halike .nil))
  refine ⟨engine, hengine, halike, ⟨report, hreport, hsame, ?_⟩, collected, hcollected, hsameRows, ?_⟩
  · cases hengine
    obtain rfl := Traced.ok_inj.1 hreport
    rfl
  · cases hengine
    rw [validateRows] at hcollected
    obtain rfl := Traced.ok_inj.1 hcollected
    rw [Report.toList_records_foldl_appendAll]
    rfl

end Engine.Validation

end FieldRules
