import FieldRules.Proofs.Engine.Relevance
import FieldRules.Proofs.Flat.Reordered

/-!
The order of members in a document does not matter to an engine. Reordered documents have the same flat entries,
so that the same rules find a field missing or a dependency unmet, and each value is checked with the same outcome.
The records come in another order where the values do.
-/

namespace FieldRules

section View

variable {view other : FlatView} {separator text : String}

theorem FlatView.perm_addressed (hperm : view.entries.Perm other.entries) (separator text : String) :
    (view.addressed separator text).Perm (other.addressed separator text) :=
  hperm.filter _

theorem FlatView.hasMatch_iff_of_perm (hperm : view.entries.Perm other.entries) :
    view.HasMatch separator text ↔ other.HasMatch separator text := by
  rw [hasMatch_iff_addressed_ne_nil, hasMatch_iff_addressed_ne_nil, ne_eq, ne_eq, not_iff_not]
  have haddressed := perm_addressed hperm separator text
  exact ⟨fun h => List.nil_perm.1 (h ▸ haddressed), fun h => List.perm_nil.1 (h ▸ haddressed)⟩

end View

namespace Engine.Validation

/-- The record for an addressed value, if the value is refused. -/
def finding? (locale : String) (ready : ValidationRule) (entry : String × Json) : Option Record :=
  (valueRecords locale ready entry.1 entry.2).result.head?

theorem result_valueRecords (locale : String) (ready : ValidationRule) (entry : String × Json) :
    (valueRecords locale ready entry.1 entry.2).result = (finding? locale ready entry).toList := by
  rw [finding?, valueRecords]
  cases (firstRefusal entry.2 ready.chain).result <;> rfl

/-- A finding names the key and the value that it is about. -/
theorem finding?_eq_some {locale : String} {ready : ValidationRule} {entry : String × Json} {r : Record}
    (h : finding? locale ready entry = some r) : r.target = entry.1 ∧ r.value = entry.2 := by
  rw [finding?, valueRecords] at h
  cases hrefusal : (firstRefusal entry.2 ready.chain).result with
  | none => simp [hrefusal] at h
  | some refusal =>
    obtain rfl : _ = r := by simpa [hrefusal] using h
    exact ⟨rfl, rfl⟩

theorem result_checkedEntries (locale : String) (ready : ValidationRule) (entries : List (String × Json)) :
    (checkedEntries locale ready entries).result = entries.filterMap (finding? locale ready) := by
  simp only [checkedEntries, List.flatMap_map, result_valueRecords, List.filterMap_eq_flatMap_toList]

/-- The records that a rule has for two views: the same ones, where it checks no value, and else those for the
values that it addresses, in the order in which each view holds the values. -/
inductive Corresponding (separator : String) (rule : FieldRule) (view other : FlatView) :
    List Record → List Record → Prop
  | unchecked (records : List Record) : Corresponding separator rule view other records records
  | checked {found : String × Json → Option Record}
      (hfound : ∀ entry r, found entry = some r → r.target = entry.1 ∧ r.value = entry.2)
      (hperm : (view.addressed separator rule.target).Perm (other.addressed separator rule.target)) :
      Corresponding separator rule view other
        ((view.addressed separator rule.target).filterMap found)
        ((other.addressed separator rule.target).filterMap found)

/-- The records of a rule for a view, filed under a row if one is given. -/
def filedBlock (engine : Validation) (view : FlatView) (rowId : Option Json) (ready : ValidationRule) : List Record :=
  (block engine.settings.locale view ready).result.map (·.tagged rowId)

theorem result_viewRecords (engine : Validation) (view : FlatView) (rowId : Option Json) :
    (engine.viewRecords view rowId).result = engine.rules.flatMap (engine.filedBlock view rowId) := by
  simp only [viewRecords, List.flatMap_map, List.map_flatMap]
  rfl

section Views

variable {registry : Registry Validator} {settings : Settings} {view other : FlatView} {separator : String}
  {rule : FieldRule} {records others : List Record}

theorem Corresponding.perm (h : Corresponding separator rule view other records others) : records.Perm others := by
  cases h with
  | unchecked => exact .refl _
  | checked _ hperm => exact hperm.filterMap _

/-- Filing records under a row changes neither what they are about nor their order. -/
theorem Corresponding.tagged (h : Corresponding separator rule view other records others) (rowId : Option Json) :
    Corresponding separator rule view other (records.map (·.tagged rowId)) (others.map (·.tagged rowId)) := by
  cases h with
  | unchecked => exact .unchecked _
  | checked hfound hperm =>
    simp only [List.map_filterMap]
    refine .checked (fun entry r hr => ?_) hperm
    obtain ⟨untagged, huntagged, rfl⟩ := Option.map_eq_some_iff.1 hr
    obtain ⟨htarget, hvalue⟩ := hfound entry untagged huntagged
    cases rowId <;> exact ⟨htarget, hvalue⟩

/-- The gates of a rule are the same for views with the same entries, and if they are open the rule checks the same
values. -/
theorem Readies.corresponding_block {ready : ValidationRule} (h : Readies registry settings rule ready)
    (hperm : view.entries.Perm other.entries) :
    Corresponding settings.separator rule view other (block settings.locale view ready).result
      (block settings.locale other ready).result := by
  have hgate := h.gateRecords?_congr (FlatView.hasMatch_iff_of_perm hperm)
    fun dependency _ => FlatView.hasMatch_iff_of_perm hperm
  rw [block_eq, block_eq, hgate]
  cases gateRecords? settings.locale other ready with
  | some records => exact .unchecked records
  | none =>
    simp only [result_checkedEntries, h.entries_findMatches]
    exact .checked (fun _ _ => finding?_eq_some) (FlatView.perm_addressed hperm _ _)

end Views

/-- Objects that differ in the order of members, at any depth, have the same records up to their order. Rule by
rule these are the same or come in the order in which the flat view holds the values that they are about. -/
theorem validateObject_reordered {schema : Schema} {registry : Registry Validator} {settings : Settings}
    {engine : Validation} (hengine : ofSchema schema registry settings = .ok engine)
    (hdigit : ∀ c ∈ settings.separator.toList, c.isDigit = false) {members others : List (String × Json)}
    (hreordered : (Json.object members).Reordered (.object others)) (hv : (Json.object members).WellFormed)
    (hkeys : (Json.object members).KeysAvoid settings.separator) (hroot : "" ∉ Assoc.keys members)
    (rowId : Option Json) :
    let view := (Json.object members).flatten settings.separator
    let reordered := (Json.object others).flatten settings.separator
    ∃ report other, engine.validateObject (.object members) rowId = .ok report ∧
      engine.validateObject (.object others) rowId = .ok other ∧
      report.result.records.toList.Perm other.result.records.toList ∧
      report.result.records.toList = engine.rules.flatMap (engine.filedBlock view rowId) ∧
      other.result.records.toList = engine.rules.flatMap (engine.filedBlock reordered rowId) ∧
      List.Forall₂ (fun rule ready => Corresponding settings.separator rule view reordered
        (engine.filedBlock view rowId ready) (engine.filedBlock reordered rowId ready)) schema.rules engine.rules := by
  intro view reordered
  obtain ⟨rfl, hrules⟩ := ofSchema_spec hengine
  have hspelled := Json.spelled_of_keysAvoid (separator_ne_empty_of_ofSchema hengine) hdigit hkeys fun _ heq =>
    Json.object.inj heq ▸ hroot
  have hperm : view.entries.Perm reordered.entries := hreordered.perm_entries_flatten hv hspelled
  have hblocks := hrules.imp fun rule ready hready => (hready.corresponding_block hperm).tagged rowId
  have hrecords (data : FlatView) : (engine.report (engine.viewRecords data rowId)).result.records.toList =
      engine.rules.flatMap (engine.filedBlock data rowId) := by
    rw [toList_records_report, result_viewRecords]
  refine ⟨_, _, rfl, rfl, ?_, hrecords view, hrecords reordered, hblocks⟩
  rw [hrecords, hrecords]
  refine .flatMap_left _ fun ready hready => ?_
  obtain ⟨rule, -, hcorresponding⟩ := exists_left_of_forall₂ hblocks hready
  exact hcorresponding.perm

/-- Keys that read as positions change their order, and with them the records of a wildcard. -/
theorem validateObject_reordered_positions :
    let registry : Registry Validator := OrderedMap.ofList [("never", fun _ _ => .error "refused")]
    let schema : Schema := { rules := [
      { target := "m.*", validators := [{ name := "never" }] },
      { target := "b", dependencies := ["c"] }] }
    let members : List (String × Json) := [("m", .object [("1", .bool true), ("0", .null)]), ("b", .array [])]
    let others : List (String × Json) := [("b", .array []), ("m", .object [("0", .null), ("1", .bool true)])]
    ∃ engine, ofSchema schema registry {} = .ok engine ∧
      (Json.object members).Reordered (.object others) ∧ (Json.object members).WellFormed ∧
      (Json.object members).KeysAvoid "." ∧
      ∃ report other, engine.validateObject (.object members) none = .ok report ∧
        engine.validateObject (.object others) none = .ok other ∧
        report.result.records.toList.Perm other.result.records.toList ∧
        report.result.records.toList.map (·.target) = ["m.1", "m.0", "b"] ∧
        other.result.records.toList.map (·.target) = ["m.0", "m.1", "b"] := by
  intro registry schema members others
  obtain ⟨engine, hengine⟩ : ∃ engine, ofSchema schema registry {} = .ok engine := ⟨_, rfl⟩
  have hreordered : (Json.object members).Reordered (.object others) :=
    .object (.cons (.object (.cons (.refl _) (.cons (.refl _) .nil)) (.swap _ _ _)) (.cons (.refl _) .nil))
      (.swap _ _ _)
  have hv : (Json.object members).WellFormed := by
    simp [members, Json.WellFormed, Json.WellFormedMembers, Json.WellFormedItems]
  have hterminal {value : Json} (h : value.isTerminal = true) : value.KeysAvoid "." := Json.keysAvoid_of_terminal h
  have hkeys : (Json.object members).KeysAvoid "." := by
    simpa [members, Json.keysAvoid_object_iff, Path.Avoids] using
      (⟨⟨hterminal rfl, hterminal rfl⟩, hterminal rfl⟩ : (_ ∧ _) ∧ _)
  obtain ⟨report, other, hreport, hother, hperm, -⟩ :=
    validateObject_reordered hengine (by simp) hreordered hv hkeys (by simp [members, Assoc.keys]) none
  refine ⟨engine, hengine, hreordered, hv, hkeys, report, other, hreport, hother, hperm, ?_, ?_⟩
  · cases hengine
    obtain rfl := Traced.ok_inj.1 hreport
    rfl
  · cases hengine
    obtain rfl := Traced.ok_inj.1 hother
    rfl

end Engine.Validation

end FieldRules
