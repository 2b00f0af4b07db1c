import FieldRules.Proofs.Command.Job
import FieldRules.Proofs.Engine.Untouched

/-!
Documents and their flat forms. A list is taken as rows, so that what decides whether a document comes back is each row
by itself, and neither how many rows there are nor that together they make a list.
-/

namespace FieldRules.Command

open Engine.Transform (rowsOf)

section Value

variable {separator : String} {v : Json}

theorem nestedValue_flatObject (separator : String) (v : Json) :
    nestedValue separator (flatObject separator v) =
      ((v.flatten separator).deflate separator).mapError .engine := by
  rw [flatObject, Json.ofMap, nestedValue, OrderedMap.ofList_entries]

theorem nestedDocument_flatObject (separator : String) (v : Json) :
    nestedDocument separator (flatObject separator v) = nestedValue separator (flatObject separator v) := rfl

theorem flatDocument_cases (separator : String) (v : Json) :
    (∃ rows, v = .array rows) ∨ rowsOf v = [v] ∧ flatDocument separator v = flatObject separator v := by
  cases v with
  | array rows => exact .inl ⟨rows, rfl⟩
  | null | bool _ | number _ | string _ | object _ => exact .inr ⟨rfl, rfl⟩

/-- A document is read back from its flat form exactly if each of its rows is. -/
theorem nestedDocument_flatDocument_eq_ok_iff_rows :
    nestedDocument separator (flatDocument separator v) = .ok v ↔
      ∀ row ∈ rowsOf v, (row.flatten separator).deflate separator = .ok row := by
  rcases flatDocument_cases separator v with ⟨rows, rfl⟩ | ⟨hrow, hflat⟩
  · rw [flatDocument, nestedDocument, map_eq_ok_iff]
    simp only [mapM_eq_ok_iff, Json.array.injEq, exists_eq_right, List.forall₂_map_left_iff, List.forall₂_same,
      nestedValue_flatObject, mapError_eq_ok_iff]
    exact Iff.rfl
  · rw [hrow, hflat, nestedDocument_flatObject, nestedValue_flatObject, mapError_eq_ok_iff,
      List.forall_mem_singleton]

/-- A document whose keys avoid the separator is read back from its flat form exactly if no row has an empty key at
its root, a key that reads as a position, or an array beyond the limit. -/
theorem nestedDocument_flatDocument_eq_ok_iff (hsep : separator ≠ "")
    (hdigit : ∀ c ∈ separator.toList, c.isDigit = false) (hv : v.WellFormed)
    (hkeys : ∀ row ∈ rowsOf v, row.KeysAvoid separator) :
    nestedDocument separator (flatDocument separator v) = .ok v ↔ ∀ row ∈ rowsOf v, row.Rebuildable := by
  rw [nestedDocument_flatDocument_eq_ok_iff_rows]
  exact forall₂_congr fun row hrow => Json.deflate_flatten_eq_ok_iff hsep hdigit
    (Engine.Transform.wellFormed_of_mem_rowsOf hv hrow) (hkeys row hrow)

end Value

/-- The world after a document has been printed. -/
def OutputStyle.printing (style : OutputStyle) (v : Json) (world : Plan.World) : Plan.World :=
  { world with printed := world.printed ++ style.format.close (style.format.text v) }

namespace Context

variable {context : Context} {given : Option String} {separator : String} {world after : Plan.World} {v : Json}

/-- The commands accept no empty separator. -/
theorem ne_empty_of_separator (h : context.separator given = .ok separator) : separator ≠ "" := by
  rw [Context.separator] at h
  split at h
  · cases h
  · next hseparator =>
    cases h
    exact mt String.isEmpty_iff.2 hseparator

/-- What is read is printed in its flat form. -/
theorem run_flatten (hseparator : context.separator given = .ok separator) {data : String}
    (hread : (readDocument data).run world = (.ok v, after)) :
    (context.flatten data given).run world = (.ok (), context.style.printing (flatDocument separator v) after) := by
  refine Job.run_bind_eq_ok_iff.2 ⟨separator, world, Job.run_ofExcept_eq_ok_iff.2 ⟨hseparator, rfl⟩, ?_⟩
  exact Job.run_bind_eq_ok_iff.2 ⟨v, after, hread, Job.run_print _ _⟩

/-- What is read as a flat form is printed as the document that it stands for. -/
theorem run_deflate (hseparator : context.separator given = .ok separator) {flat : String} {document : Json}
    (hread : (readDocument flat).run world = (.ok document, after))
    (hnested : nestedDocument separator document = .ok v) :
    (context.deflate flat given).run world = (.ok (), context.style.printing v after) := by
  refine Job.run_bind_eq_ok_iff.2 ⟨separator, world, Job.run_ofExcept_eq_ok_iff.2 ⟨hseparator, rfl⟩, ?_⟩
  refine Job.run_bind_eq_ok_iff.2 ⟨document, after, hread, ?_⟩
  exact Job.run_bind_eq_ok_iff.2 ⟨v, after, Job.run_ofExcept_eq_ok_iff.2 ⟨hnested, rfl⟩, Job.run_print _ _⟩

/-- With a separator without digits that the keys avoid, the second command undoes the first. Each row has to come back
by itself: it has no empty key at its root, no key that reads as a position, and no array beyond the limit. Then the
flat form that one call prints is a document that another call with this separator accepts, whatever else differs
between the calls, and it prints what the first was given. A document that is no list is its only row, and there may
be any number of rows. -/
theorem deflate_flatten (hseparator : context.separator given = .ok separator)
    (hdigit : ∀ c ∈ separator.toList, c.isDigit = false) (hv : v.WellFormed)
    (hrows : ∀ row ∈ rowsOf v, row.KeysAvoid separator ∧ row.Rebuildable) :
    nestedDocument separator (flatDocument separator v) = .ok v ∧
    (∀ data world after, (readDocument data).run world = (.ok v, after) →
      (context.flatten data given).run world = (.ok (), context.style.printing (flatDocument separator v) after)) ∧
    ∀ (other : Context) (choice : Option String), other.separator choice = .ok separator →
      ∀ flat world after, (readDocument flat).run world = (.ok (flatDocument separator v), after) →
        (other.deflate flat choice).run world = (.ok (), other.style.printing v after) := by
  have hnested : nestedDocument separator (flatDocument separator v) = .ok v :=
    (nestedDocument_flatDocument_eq_ok_iff (ne_empty_of_separator hseparator) hdigit hv
      fun row hrow => (hrows row hrow).1).2 fun row hrow => (hrows row hrow).2
  exact ⟨hnested, fun _ _ _ hread => run_flatten hseparator hread,
    fun _ _ hother _ _ _ hread => run_deflate hother hread hnested⟩

/-- A row without members, a scalar row, a row that is a list, and a key that is empty below the root. -/
theorem deflate_flatten_rows :
    let rows : List Json := [.object [], .ofNat 1, .array [.array [], .null],
      .object [("a.b", .object [("", .array [.bool true])])]]
    let flat : List Json := [.object [("", .object [])], .object [("", .ofNat 1)],
      .object [("0", .array []), ("1", .null)], .object [("a.b//0", .bool true)]]
    let file (v : Json) : Disk.Entry := .file (Text.Utf8.encode v.compact.toList)
    let world : Plan.World := { disk := ⟨[(["v.json"], file (.array rows)), (["f.json"], file (.array flat))]⟩ }
    let context : Context := { style := ⟨.json, false, true⟩, now := ⟨0, 0⟩ }
    let read (path : String) := (readDocument path).run world
    context.separator (some "/") = .ok "/" ∧ (Json.array rows).WellFormed ∧
    (∀ row ∈ rowsOf (.array rows), row.KeysAvoid "/" ∧ row.Rebuildable) ∧
    (read "v.json").1 = .ok (.array rows) ∧ (read "f.json").1 = .ok (.array flat) ∧
    (context.flatten "v.json" (some "/")).run world =
      (.ok (), context.style.printing (.array flat) (read "v.json").2) ∧
    (context.deflate "f.json" (some "/")).run world =
      (.ok (), context.style.printing (.array rows) (read "f.json").2) := by
  intro rows flat file world context read
  obtain ⟨hflat, hread, hreadFlat⟩ : flatDocument "/" (.array rows) = .array flat ∧
      (read "v.json").1 = .ok (.array rows) ∧ (read "f.json").1 = .ok (.array flat) := by
    decide +kernel +revert
  have hseparator : context.separator (some "/") = .ok "/" := rfl
  have hv : (Json.array rows).WellFormed := by
    simp [rows, Json.WellFormed, Json.WellFormedItems, Json.WellFormedMembers, Json.ofNat]
  have hscalar (v : Json) (h : v.isTerminal = true) : v.KeysAvoid "/" ∧ v.Regular :=
    ⟨Json.keysAvoid_of_terminal h, Json.regular_of_terminal h⟩
  have hempty := hscalar (.object []) rfl
  have hone := hscalar (.ofNat 1) rfl
  have hnil := hscalar (.array []) rfl
  have hnull := hscalar .null rfl
  have htrue := hscalar (.bool true) rfl
  have hrows : ∀ row ∈ rowsOf (.array rows), row.KeysAvoid "/" ∧ row.Rebuildable := by
    have hnames : Path.isIndex "a.b" = false ∧ Path.isIndex "" = false := by decide
    have hroot : ∀ row ∈ rows, ∀ members, row = .object members → "" ∉ Assoc.keys members := by
      simp [rows, Json.ofNat]
    have hregular : ∀ row ∈ rows, row.KeysAvoid "/" ∧ row.Regular := by
      simp [rows, Json.keysAvoid_array_iff, Json.keysAvoid_object_iff, Json.regular_array_iff,
        Json.regular_object_iff, Path.Avoids, hempty, hone, hnil, hnull, htrue, hnames]
    exact fun row hrow => ⟨(hregular row hrow).1, (hregular row hrow).2, hroot row hrow⟩
  obtain ⟨-, hflatten, hdeflate⟩ := deflate_flatten hseparator (by simp) hv hrows
  rw [hflat] at hflatten hdeflate
  exact ⟨hseparator, hv, hrows, hread, hreadFlat, hflatten _ _ _ (Prod.ext hread rfl),
    hdeflate _ _ hseparator _ _ _ (Prod.ext hreadFlat rfl)⟩

end Context

end FieldRules.Command
