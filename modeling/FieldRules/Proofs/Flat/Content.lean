import FieldRules.Flat.Flatten
import FieldRules.Proofs.Json.Place

/-!
What a flat view says about the value that it stands for, apart from how its keys are written and in
which order they come: values under paths of segments. A value carries such content if it holds each
of the values at the end of its path and nothing else; that determines it up to the order of members.
-/

namespace FieldRules

/-- Values under paths of segments. -/
abbrev Content := List String → Json → Prop

/-- The entries of a view, each under the segments of its key. -/
def FlatView.content (separator : String) (view : FlatView) : Content := fun path value =>
  ∃ key, (key, value) ∈ view.entries ∧ Path.segments separator key = path

namespace Content

/-- Some path goes on with the segment behind this one. -/
def Continues (c : Content) (path : List String) (segment : String) : Prop :=
  ∃ rest value, c (path ++ segment :: rest) value

/-- There has to be a container at the path: some path goes on behind it, or it is the root and no
value stands there. -/
def Opens (c : Content) (path : List String) : Prop :=
  (∃ segment, c.Continues path segment) ∨ (path = [] ∧ ∀ value, ¬ c [] value)

/-- Exactly one value, up to the order of members, has this content. -/
structure Unambiguous (c : Content) : Prop where
  /-- No path with a value goes on to another one. -/
  no_conflict : ∀ path value other rest, c path value → c other rest → path <+: other → path = other
  /-- The segments behind a path are all positions, or none of them is. -/
  one_kind : ∀ path, (∀ segment, c.Continues path segment → Path.isIndex segment = true) ∨
    (∀ segment, c.Continues path segment → Path.isIndex segment = false)
  /-- Positions stay below the limit of array lengths. -/
  in_range : ∀ path position, c.Continues path (Path.ofIndex position) → position ≤ 1048576

theorem Continues.value_or_opens {c : Content} {path : List String} {segment : String}
    (h : c.Continues path segment) :
    (∃ value, c (path ++ [segment]) value) ∨ c.Opens (path ++ [segment]) := by
  obtain ⟨rest, value, hvalue⟩ := h
  cases rest with
  | nil => exact .inl ⟨value, hvalue⟩
  | cons next rest => exact .inr (.inl ⟨next, rest, value, by simpa using hvalue⟩)

theorem Continues.exists_path {c : Content} {path : List String} {segment : String}
    (h : c.Continues path segment) : ∃ other value, c other value ∧ path ++ [segment] <+: other := by
  obtain ⟨rest, value, hvalue⟩ := h
  exact ⟨_, value, hvalue, rest, by simp⟩

theorem names_of_no_position {c : Content} {path : List String}
    (h : ¬ ∃ position, c.Continues path (Path.ofIndex position)) (segment : String)
    (hcontinues : c.Continues path segment) : Path.isIndex segment = false := by
  rw [← Bool.not_eq_true, Path.isIndex_iff]
  rintro ⟨position, rfl⟩
  exact h ⟨position, hcontinues⟩

theorem unambiguous_of_empty {c : Content} (hempty : ∀ path value, ¬ c path value) : c.Unambiguous := by
  have hends (path : List String) (segment : String) : ¬ c.Continues path segment :=
    fun ⟨_, value, hvalue⟩ => hempty _ value hvalue
  refine ⟨?_, ?_, ?_⟩
  · exact fun path value _ _ hvalue => absurd hvalue (hempty path value)
  · exact fun path => .inl fun segment h => absurd h (hends path segment)
  · exact fun path position h => absurd h (hends path _)

/-- The part of the content below a segment. -/
def below (c : Content) (segment : String) : Content := fun path value => c (segment :: path) value

/-- Without a value at the root, content is unambiguous if the segments at the root are and so is what
stands below each of them. -/
theorem unambiguous_iff_below {c : Content} (hroot : ∀ value, ¬ c [] value) :
    c.Unambiguous ↔
      ((∀ segment, c.Continues [] segment → Path.isIndex segment = true) ∨
        (∀ segment, c.Continues [] segment → Path.isIndex segment = false)) ∧
      (∀ position, c.Continues [] (Path.ofIndex position) → position ≤ 1048576) ∧
      ∀ segment, (c.below segment).Unambiguous := by
  constructor
  · intro h
    refine ⟨h.one_kind [], h.in_range [], fun segment => ⟨?_, ?_, ?_⟩⟩
    · intro path value other rest hvalue hrest hbegins
      exact (List.cons.inj (h.no_conflict (segment :: path) value (segment :: other) rest hvalue hrest
        (List.cons_prefix_cons.2 ⟨rfl, hbegins⟩))).2
    · exact fun path => h.one_kind (segment :: path)
    · exact fun path => h.in_range (segment :: path)
  · rintro ⟨hkind, hrange, hbelow⟩
    refine ⟨?_, ?_, ?_⟩
    · intro path value other rest hvalue hrest hbegins
      cases path with
      | nil => exact absurd hvalue (hroot value)
      | cons segment path =>
        obtain ⟨tail, rfl⟩ := hbegins
        exact congrArg (segment :: ·) ((hbelow segment).no_conflict path value (path ++ tail) rest hvalue
          hrest (List.prefix_append _ _))
    · intro path
      cases path with
      | nil => exact hkind
      | cons segment path => exact (hbelow segment).one_kind path
    · intro path
      cases path with
      | nil => exact hrange
      | cons segment path => exact (hbelow segment).in_range path

/-- A path with a value that begins with another path ends there or goes on behind it. -/
theorem eq_or_continues {c : Content} {path other : List String} {value : Json} (hvalue : c other value)
    (hbegins : path <+: other) : path = other ∨ ∃ segment, c.Continues path segment := by
  obtain ⟨rest, rfl⟩ := hbegins
  cases rest with
  | nil => exact .inl (by simp)
  | cons segment rest => exact .inr ⟨segment, rest, value, hvalue⟩

end Content

/-- A value holds the content and nothing else. -/
structure Json.Carries (w : Json) (c : Content) : Prop where
  /-- Each value stands at the end of its path. -/
  value : ∀ path x, c path x → w.follow? path = some x
  /-- A container whose segments are names is an object with just these keys. -/
  object : ∀ path, c.Opens path → (∀ segment, c.Continues path segment → Path.isIndex segment = false) →
    ∃ members, w.follow? path = some (.object members) ∧ (Assoc.keys members).Nodup ∧
      ∀ segment, segment ∈ Assoc.keys members ↔ c.Continues path segment
  /-- A container with a position is an array that ends at the last one, with null in the gaps. -/
  array : ∀ path, (∃ position, c.Continues path (Path.ofIndex position)) →
    ∃ items last, w.follow? path = some (.array items) ∧ items.length = last + 1 ∧
      c.Continues path (Path.ofIndex last) ∧
      (∀ position, c.Continues path (Path.ofIndex position) → position ≤ last) ∧
      ∀ position, position ≤ last → ¬ c.Continues path (Path.ofIndex position) →
        items[position]? = some .null
  /-- Besides the containers on the way to a value and the parts of the values there are only the
  nulls in the gaps of arrays. -/
  nothing_else : ∀ path x, w.follow? path = some x → path = [] ∨
    (∃ other value, c other value ∧ (path <+: other ∨ other <+: path)) ∨
    (x = .null ∧ ∃ front position, path = front ++ [Path.ofIndex position] ∧
      ∃ last, c.Continues front (Path.ofIndex last) ∧ position ≤ last)

namespace Json

/-- The last clause follows from the others, from the root down: what stands under a segment of a
container is on the way to a value or stands in a gap. -/
theorem Carries.of_containers {w : Json} {c : Content}
    (hvalue : ∀ path x, c path x → w.follow? path = some x)
    (hobject : ∀ path, c.Opens path →
      (∀ segment, c.Continues path segment → Path.isIndex segment = false) →
      ∃ members, w.follow? path = some (.object members) ∧ (Assoc.keys members).Nodup ∧
        ∀ segment, segment ∈ Assoc.keys members ↔ c.Continues path segment)
    (harray : ∀ path, (∃ position, c.Continues path (Path.ofIndex position)) →
      ∃ items last, w.follow? path = some (.array items) ∧ items.length = last + 1 ∧
        c.Continues path (Path.ofIndex last) ∧
        (∀ position, c.Continues path (Path.ofIndex position) → position ≤ last) ∧
        ∀ position, position ≤ last → ¬ c.Continues path (Path.ofIndex position) →
          items[position]? = some .null) :
    w.Carries c := by
  refine ⟨hvalue, hobject, harray, ?_⟩
  intro path
  induction path using List.reverseRecOn with
  | nil => exact fun _ _ => .inl rfl
  | append_singleton front segment ih =>
    intro x hx
    rw [follow?_append] at hx
    obtain ⟨container, hcontainer, hchild⟩ := Option.bind_eq_some_iff.1 hx
    replace hchild : container.child? segment = some x := by
      simpa [follow?_cons, Option.bind_eq_some_iff] using hchild
    refine .inr ?_
    by_cases habove : ∃ other value, c other value ∧ other <+: front
    · obtain ⟨other, value, hother, hbegins⟩ := habove
      exact .inl ⟨other, value, hother, .inr (hbegins.trans (List.prefix_append _ _))⟩
    have hnull : container ≠ .null := by
      rintro rfl
      simp [child?] at hchild
    have hopens : c.Opens front := by
      rcases ih container hcontainer with rfl | ⟨other, value, hother, hbegins | hbegins⟩ | ⟨h, -⟩
      · by_cases hroot : ∃ segment, c.Continues [] segment
        · exact .inl hroot
        · exact .inr ⟨rfl, fun value hv => habove ⟨[], value, hv, List.prefix_rfl⟩⟩
      · rcases Content.eq_or_continues hother hbegins with rfl | hcontinues
        · exact absurd ⟨_, value, hother, List.prefix_rfl⟩ habove
        · exact .inl hcontinues
      · exact absurd ⟨other, value, hother, hbegins⟩ habove
      · exact absurd h hnull
    have hreached (h : c.Continues front segment) :
        ∃ other value, c other value ∧ (front ++ [segment] <+: other ∨ other <+: front ++ [segment]) := by
      obtain ⟨other, value, hother, hbegins⟩ := h.exists_path
      exact ⟨other, value, hother, .inl hbegins⟩
    by_cases hposition : ∃ position, c.Continues front (Path.ofIndex position)
    · obtain ⟨items, last, hitems, hlength, hlast, hbound, hgap⟩ := harray front hposition
      obtain rfl : .array items = container := Option.some.inj (hitems.symm.trans hcontainer)
      obtain ⟨position, hindex, hitem⟩ := Option.bind_eq_some_iff.1 hchild
      obtain rfl := Path.index?_eq_some_iff.1 hindex
      by_cases hcontinues : c.Continues front (Path.ofIndex position)
      · exact .inl (hreached hcontinues)
      · have hle : position ≤ last := by
          have hlt := (List.getElem?_eq_some_iff.1 hitem).1
          omega
        have hx : x = .null := Option.some.inj (hitem.symm.trans (hgap position hle hcontinues))
        exact .inr ⟨hx, front, position, rfl, last, hlast, hle⟩
    · obtain ⟨members, hmembers, -, hkeys⟩ := hobject front hopens (Content.names_of_no_position hposition)
      obtain rfl : .object members = container := Option.some.inj (hmembers.symm.trans hcontainer)
      exact .inl (hreached ((hkeys segment).1 (Assoc.exists_find?_eq_some_iff.1 ⟨x, hchild⟩)))

/-- A container carries content if it has the right segments and what stands under each of them carries
the part below it. -/
theorem Carries.of_children {w : Json} {c : Content} (hroot : ∀ x, ¬ c [] x)
    (hchild : ∀ segment, c.Continues [] segment →
      ∃ v, w.child? segment = some v ∧ v.Carries (c.below segment))
    (hobject : (∀ segment, c.Continues [] segment → Path.isIndex segment = false) →
      ∃ members, w = .object members ∧ (Assoc.keys members).Nodup ∧
        ∀ segment, segment ∈ Assoc.keys members ↔ c.Continues [] segment)
    (harray : (∃ position, c.Continues [] (Path.ofIndex position)) →
      ∃ items last, w = .array items ∧ items.length = last + 1 ∧ c.Continues [] (Path.ofIndex last) ∧
        (∀ position, c.Continues [] (Path.ofIndex position) → position ≤ last) ∧
        ∀ position, position ≤ last → ¬ c.Continues [] (Path.ofIndex position) →
          items[position]? = some .null) :
    w.Carries c := by
  have hbelow (segment : String) (path : List String) (next : String)
      (h : c.Continues (segment :: path) next) :
      ∃ v, w.child? segment = some v ∧ v.Carries (c.below segment) := by
    obtain ⟨rest, x, hx⟩ := h
    exact hchild segment ⟨path ++ next :: rest, x, hx⟩
  refine .of_containers ?_ ?_ ?_
  · intro path x hx
    cases path with
    | nil => exact absurd hx (hroot x)
    | cons segment path =>
      obtain ⟨v, hv, hcarries⟩ := hchild segment ⟨path, x, hx⟩
      simpa [follow?_cons, hv] using hcarries.value path x hx
  · intro path hopens hnames
    cases path with
    | nil =>
      obtain ⟨members, rfl, hmembers⟩ := hobject hnames
      exact ⟨members, rfl, hmembers⟩
    | cons segment path =>
      obtain ⟨next, hnext⟩ : ∃ next, c.Continues (segment :: path) next := by
        simpa [Content.Opens] using hopens
      obtain ⟨v, hv, hcarries⟩ := hbelow segment path next hnext
      obtain ⟨members, hmembers, hkeys⟩ := hcarries.object path (.inl ⟨next, hnext⟩) hnames
      exact ⟨members, by simpa [follow?_cons, hv] using hmembers, hkeys⟩
  · rintro path ⟨position, hposition⟩
    cases path with
    | nil =>
      obtain ⟨items, last, rfl, hitems⟩ := harray ⟨position, hposition⟩
      exact ⟨items, last, rfl, hitems⟩
    | cons segment path =>
      obtain ⟨v, hv, hcarries⟩ := hbelow segment path _ hposition
      obtain ⟨items, last, hfollow, hitems⟩ := hcarries.array path ⟨position, hposition⟩
      exact ⟨items, last, by simpa [follow?_cons, hv] using hfollow, hitems⟩

/-- Content determines what carries it, up to the order of members. The induction is on the size of
what stands at a path in one of the two values. -/
private theorem reordered_of_follow? {w w' : Json} {c : Content} (h : w.Carries c) (h' : w'.Carries c)
    (path : List String) (a b : Json) (ha : w.follow? path = some a) (hb : w'.follow? path = some b)
    (hpath : (∃ x, c path x) ∨ c.Opens path) : a.Reordered b := by
  induction hsize : sizeOf a using Nat.strongRecOn generalizing path a b with
  | ind size ih =>
    subst hsize
    rcases hpath with ⟨x, hx⟩ | hopens
    · obtain rfl : a = x := Option.some.inj (ha.symm.trans (h.value path x hx))
      obtain rfl : b = a := Option.some.inj (hb.symm.trans (h'.value path a hx))
      exact .refl b
    by_cases hposition : ∃ position, c.Continues path (Path.ofIndex position)
    · obtain ⟨items, last, hitems, hlength, hlast, hbound, hgap⟩ := h.array path hposition
      obtain ⟨others, last', hothers, hlength', hlast', hbound', hgap'⟩ := h'.array path hposition
      obtain rfl : a = .array items := Option.some.inj (ha.symm.trans hitems)
      obtain rfl : b = .array others := Option.some.inj (hb.symm.trans hothers)
      have hsame : last = last' := Nat.le_antisymm (hbound' last hlast) (hbound last' hlast')
      refine .array (reorderedItems_of_getElem? (by omega) ?_)
      intro position item other hitem hother
      by_cases hcontinues : c.Continues path (Path.ofIndex position)
      · have hitemChild : (Json.array items).child? (Path.ofIndex position) = some item := by simpa using hitem
        have hsmaller := sizeOf_lt_of_child? hitemChild
        refine ih (sizeOf item) hsmaller (path ++ [Path.ofIndex position]) item other ?_ ?_
          hcontinues.value_or_opens rfl
        · simpa [follow?_append, ha, follow?_cons] using hitem
        · simpa [follow?_append, hb, follow?_cons] using hother
      · have hlt := (List.getElem?_eq_some_iff.1 hitem).1
        obtain rfl : item = .null :=
          Option.some.inj (hitem.symm.trans (hgap position (by omega) hcontinues))
        obtain rfl : other = .null :=
          Option.some.inj (hother.symm.trans (hgap' position (by omega) hcontinues))
        exact .refl _
    · have hnames := Content.names_of_no_position hposition
      obtain ⟨members, hmembers, hnodup, hkeys⟩ := h.object path hopens hnames
      obtain ⟨others, hothers, hnodup', hkeys'⟩ := h'.object path hopens hnames
      obtain rfl : a = .object members := Option.some.inj (ha.symm.trans hmembers)
      obtain rfl : b = .object others := Option.some.inj (hb.symm.trans hothers)
      refine reordered_object_of_find? hnodup hnodup' (fun key => (hkeys key).trans (hkeys' key).symm) ?_
      intro key value other hvalue hother
      have hcontinues := (hkeys key).1 (Assoc.exists_find?_eq_some_iff.1 ⟨value, hvalue⟩)
      have hsmaller := sizeOf_lt_of_child? (v := .object members) hvalue
      refine ih (sizeOf value) hsmaller (path ++ [key]) value other ?_ ?_ hcontinues.value_or_opens rfl
      · simpa [follow?_append, ha, follow?_cons] using hvalue
      · simpa [follow?_append, hb, follow?_cons] using hother

theorem Carries.reordered {w w' : Json} {c : Content} (h : w.Carries c) (h' : w'.Carries c) :
    w.Reordered w' := by
  apply reordered_of_follow? h h' [] w w' rfl rfl
  by_cases hroot : ∃ x, c [] x
  · exact .inl hroot
  · exact .inr (.inr ⟨rfl, fun x hx => hroot ⟨x, hx⟩⟩)

end Json

end FieldRules
