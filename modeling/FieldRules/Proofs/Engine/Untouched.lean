import FieldRules.Operator.Builtin
import FieldRules.Proofs.Engine.Places
import FieldRules.Proofs.Flat.Gaps

/-!
Data that no rule addresses. It is taken apart and rebuilt all the same, so what the operators leave alone is
unchanged only as far as it comes back from its flat view.
-/

namespace FieldRules.Engine.Transform

/-- The rows of a document: the items of a list, or the one value that it is. -/
def rowsOf : Json → List Json
  | .array rows => rows
  | data => [data]

/-- No rule addresses a terminal of the row. -/
def Spares (engine : Transform) (row : Json) : Prop :=
  ∀ rule ∈ engine.rules, ∀ key ∈ (row.flatten engine.settings.separator).keys,
    rule.compiled.pattern.test key = false

theorem applyRules_of_test_eq_false {rules : List TransformRule} {view : FlatView}
    (h : ∀ rule ∈ rules, ∀ key ∈ view.keys, rule.compiled.pattern.test key = false) :
    applyRules view rules = ⟨[], { view }⟩ := by
  induction rules with
  | nil => rfl
  | cons rule rest ih =>
    obtain ⟨hrule, hrest⟩ := List.forall_mem_cons.1 h
    have hentries : (view.findMatches rule.compiled.pattern).entries = [] :=
      List.isEmpty_iff.1 (FlatView.isEmpty_findMatches_iff.2 hrule)
    have hkeys : (view.findMatches rule.compiled.pattern).keys = [] := by
      rw [OrderedMap.keys, hentries, Assoc.keys, List.map_nil]
    rw [applyRules, hkeys, rewritePaths, ih hrest]
    rfl

theorem Spares.result_operateObject {engine : Transform} {row : Json} (h : engine.Spares row)
    (hobject : row.kind = .object) :
    (engine.operateObject row).result =
      (row.flatten engine.settings.separator).deflate engine.settings.separator := by
  cases row with
  | null | bool _ | number _ | string _ | array _ => cases hobject
  | object members => rw [Transform.result_operateObject, applyRules_of_test_eq_false h]

theorem result_operateEach (engine : Transform) (rows : List Json) :
    (engine.operateEach rows).result = rows.mapM fun row => (engine.operateObject row).result := by
  induction rows with
  | nil => rfl
  | cons row rest ih =>
    rw [List.mapM_cons, operateEach, ← ih]
    cases hrow : (engine.operateObject row).result with
    | error failure => rfl
    | ok next =>
      cases hrest : (engine.operateEach rest).result with
      | error failure => simp only [hrest]; rfl
      | ok others => simp only [hrest]; rfl

theorem rowsOf_cases (engine : Transform) (data : Json) :
    (∃ rows, data = .array rows) ∨ rowsOf data = [data] ∧ engine.operate data = engine.operateObject data := by
  cases data with
  | array rows => exact .inl ⟨rows, rfl⟩
  | null | bool _ | number _ | string _ | object _ => exact .inr ⟨rfl, rfl⟩

theorem wellFormed_of_mem_rowsOf {data row : Json} (h : data.WellFormed) (hrow : row ∈ rowsOf data) :
    row.WellFormed := by
  cases data with
  | array rows => exact Json.wellFormed_array_iff.1 h row hrow
  | null | bool _ | number _ | string _ | object _ =>
    obtain rfl := List.mem_singleton.1 hrow
    exact h

section Rows

variable {engine : Transform}

/-- Rows are rewritten one by one. -/
theorem operate_array_eq_ok_iff {rows : List Json} (hobjects : ∀ row ∈ rows, row.kind = .object) {w : Json} :
    (engine.operate (.array rows)).result = .ok w ↔
      ∃ others, List.Forall₂ (fun row other => (engine.operateObject row).result = .ok other) rows others ∧
        .array others = w := by
  rw [operate, operateRows, misshapenRow?_eq_none_iff.2 hobjects, map_eq_ok_iff]
  simp only [result_operateEach, mapM_eq_ok_iff]

variable {data : Json} (hobjects : ∀ row ∈ rowsOf data, row.kind = .object)
include hobjects

theorem operate_eq_ok_self_iff :
    (engine.operate data).result = .ok data ↔
      ∀ row ∈ rowsOf data, (engine.operateObject row).result = .ok row := by
  rcases rowsOf_cases engine data with ⟨rows, rfl⟩ | ⟨hrows, hoperate⟩
  · replace hobjects : ∀ row ∈ rows, row.kind = .object := hobjects
    simp only [operate_array_eq_ok_iff hobjects, Json.array.injEq, exists_eq_right, List.forall₂_same, rowsOf]
  · rw [hrows, hoperate, List.forall_mem_singleton]

theorem eq_of_operate_eq_ok (hrows : ∀ row ∈ rowsOf data, ∀ other, (engine.operateObject row).result = .ok other →
    other = row) {w : Json} (hw : (engine.operate data).result = .ok w) : w = data := by
  rcases rowsOf_cases engine data with ⟨rows, rfl⟩ | ⟨hsingle, hoperate⟩
  · obtain ⟨others, hothers, rfl⟩ := (operate_array_eq_ok_iff hobjects).1 hw
    have hsame : List.Forall₂ (· = ·) rows others := (forall₂_and_mem hothers).imp
      fun row other ⟨hrow, hother⟩ => (hrows row hrow other hother).symm
    rw [List.forall₂_eq_eq_eq] at hsame
    rw [hsame]
  · rw [hoperate] at hw
    exact hrows data (hsingle ▸ List.mem_singleton_self data) w hw

end Rows

/-- Data that no rule addresses is unchanged exactly if its paths say where they lead, no key reads as a position
and no array is longer than positions allow. As long as its paths do and every object that holds something has a
key that does not read as a position, it is unchanged or refused. -/
theorem operate_of_spares {schema : Schema} {registry : Registry Operator} {settings : Settings}
    {engine : Transform} (hengine : ofSchema schema registry settings = .ok engine) {data : Json}
    (hv : data.WellFormed) (hobjects : ∀ row ∈ rowsOf data, row.kind = .object)
    (hspares : ∀ row ∈ rowsOf data, engine.Spares row) :
    let outcome := (engine.operate data).result
    ((∀ c ∈ settings.separator.toList, c.isDigit = false) →
      (outcome = .ok data ↔ ∀ row ∈ rowsOf data, row.Spelled settings.separator ∧ row.Regular)) ∧
    ((∀ row ∈ rowsOf data, row.Spelled settings.separator) →
      (outcome = .ok data ↔ ∀ row ∈ rowsOf data, row.Regular) ∧
      ((∀ row ∈ rowsOf data, row.Labelled) → outcome = .ok data ∨ ∃ failure, outcome = .error failure)) := by
  intro outcome
  have hsep := separator_ne_empty hengine
  have hrebuilt (row : Json) (hrow : row ∈ rowsOf data) :
      (engine.operateObject row).result = (row.flatten settings.separator).deflate settings.separator := by
    rw [(hspares row hrow).result_operateObject (hobjects row hrow), settings_eq hengine]
  have hrow (row : Json) (hrow : row ∈ rowsOf data) : row.WellFormed := wellFormed_of_mem_rowsOf hv hrow
  refine ⟨fun hdigit => ?_, fun hspelled => ⟨?_, fun hlabelled => ?_⟩⟩
  · refine (operate_eq_ok_self_iff hobjects).trans (forall₂_congr fun row hmem => ?_)
    rw [hrebuilt row hmem]
    exact Json.deflate_flatten_eq_ok_self_iff hsep hdigit (hrow row hmem)
  · refine (operate_eq_ok_self_iff hobjects).trans (forall₂_congr fun row hmem => ?_)
    rw [hrebuilt row hmem]
    exact (hspelled row hmem).deflate_flatten_iff_regular hsep (hrow row hmem)
  · cases houtcome : outcome with
    | error failure => exact .inr ⟨failure, rfl⟩
    | ok w =>
      refine .inl (congrArg _ (eq_of_operate_eq_ok hobjects ?_ houtcome))
      intro row hmem other hother
      rw [hrebuilt row hmem] at hother
      exact (hspelled row hmem).eq_of_deflate_flatten hsep (hrow row hmem) (hlabelled row hmem) hother

/-- An empty key below the root comes back. Names and positions side by side are refused. -/
theorem operate_of_spares_mixed :
    let registry : Registry Operator := OrderedMap.ofList [("Clear", fun _ _ => .ok (some .null))]
    let schema : Schema := { rules := [{ target := "a.*", operators := [{ name := "Clear" }] }] }
    let row : Json := .object [("a", .object [("", .array [.null])])]
    let mixed : Json := .object [("a", .null), ("0", .null)]
    ∃ engine, ofSchema schema registry {} = .ok engine ∧ engine.Spares row ∧ engine.Spares mixed ∧
      (engine.operate (.array [row])).result = .ok (.array [row]) ∧
      (engine.operate mixed).result ≠ .ok mixed ∧
      ∃ failure, (engine.operate mixed).result = .error failure := by
  intro registry schema row mixed
  let engine : Transform :=
    { rules := [⟨⟨{ target := "a.*", operators := [{ name := "Clear" }] }, ⟨"a.*", ".", rfl, rfl⟩, []⟩,
        [⟨{ name := "Clear" }, fun _ _ => .ok (some .null)⟩]⟩],
      settings := {} }
  have hengine : ofSchema schema registry {} = .ok engine := rfl
  have hspares : engine.Spares row ∧ engine.Spares mixed := by
    unfold Spares
    decide +kernel
  have hspelled : row.Spelled "." ∧ mixed.Spelled "." := by
    unfold Json.Spelled
    decide +kernel
  have hv : row.WellFormed ∧ mixed.WellFormed := by
    simp [row, mixed, Json.WellFormed, Json.WellFormedMembers, Json.WellFormedItems]
  have hnull : Json.null.Regular := Json.regular_of_terminal rfl
  have hregular : row.Regular := by
    have hnames : Path.isIndex "a" = false ∧ Path.isIndex "" = false := by decide
    simpa [row, Json.regular_object_iff, Json.regular_array_iff, hnull] using hnames
  have hmixed : mixed.Labelled ∧ ¬ mixed.Regular := by
    have hnames : Path.isIndex "a" = false ∧ Path.isIndex "0" = true := by decide
    constructor
    · refine Json.labelled_iff.2 ⟨?_, ?_⟩
      · intro members heq _
        obtain rfl : _ = members := Json.object.inj heq
        exact ⟨"a", List.mem_cons_self, hnames.1⟩
      · simp [mixed, Json.parts, hnull.labelled]
    · simp [mixed, Json.regular_object_iff, hnames]
  obtain ⟨hunchanged, -⟩ := operate_of_spares hengine
    (Json.wellFormed_array_iff.2 (List.forall_mem_singleton.2 hv.1)) (List.forall_mem_singleton.2 rfl)
    (List.forall_mem_singleton.2 hspares.1)
  obtain ⟨-, hrefused⟩ := operate_of_spares hengine hv.2 (List.forall_mem_singleton.2 rfl)
    (List.forall_mem_singleton.2 hspares.2)
  obtain ⟨hsame, hkept⟩ := hrefused (List.forall_mem_singleton.2 hspelled.2)
  have hchanged : (engine.operate mixed).result ≠ .ok mixed := fun hok =>
    hmixed.2 (List.forall_mem_singleton.1 (hsame.1 hok))
  exact ⟨engine, hengine, hspares.1, hspares.2,
    (hunchanged (by simp)).2 (List.forall_mem_singleton.2 ⟨hspelled.1, hregular⟩), hchanged,
    (hkept (List.forall_mem_singleton.2 hmixed.1)).resolve_left hchanged⟩

/-- A key that the separator cuts in two, an empty key at the root and an object of positions alone come back as
something else, though there is no rule at all. -/
theorem operate_changes_keys :
    ∃ engine, ofSchema {} Operator.builtin {} = .ok engine ∧ (∀ row, engine.Spares row) ∧
      ∀ change ∈ [
        (Json.object [("a.b", .null)], Json.object [("a", .object [("b", .null)])]),
        (Json.object [("", .null)], Json.null),
        (Json.object [("0", .null)], Json.array [.null])],
        change.1.kind = .object ∧ (engine.operate change.1).result = .ok change.2 ∧ change.2 ≠ change.1 := by
  refine ⟨⟨[], {}⟩, rfl, ?_, by decide +kernel⟩
  intro row rule hrule
  cases hrule

end FieldRules.Engine.Transform
