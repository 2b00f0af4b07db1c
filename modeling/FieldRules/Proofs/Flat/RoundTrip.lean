import FieldRules.Proofs.Flat.Spelled

/-!
Which values come back from their flat views, with every scalar, item and member in its place.
-/

namespace FieldRules

namespace Json

/-- No key of an object, at any depth, shares a character with the separator. -/
def KeysAvoid (separator : String) (v : Json) : Prop :=
  ∀ members, (Json.object members).Within v → ∀ key ∈ Assoc.keys members, Path.Avoids separator key

/-- What a container is can be told from the segments of its parts, at any depth. -/
structure Regular (v : Json) : Prop where
  /-- No key of an object reads as a position. -/
  names : ∀ members, (Json.object members).Within v →
    ∀ key ∈ Assoc.keys members, Path.isIndex key = false
  /-- No array is longer than positions allow. -/
  lengths : ∀ items, (Json.array items).Within v → items.length ≤ 1048577

/-- A value that comes back from its flat view. -/
structure Rebuildable (v : Json) : Prop extends Regular v where
  /-- An empty key at the root would leave no trace in the paths. -/
  root : ∀ members, v = .object members → "" ∉ Assoc.keys members

section Parts

variable {separator : String} {v : Json}

theorem Regular.part (h : v.Regular) {part : String × Json} (hpart : part ∈ v.parts) : part.2.Regular :=
  ⟨fun members hmembers => h.names members (within_iff.2 (.inr ⟨part, hpart, hmembers⟩)),
    fun items hitems => h.lengths items (within_iff.2 (.inr ⟨part, hpart, hitems⟩))⟩

theorem regular_iff :
    v.Regular ↔
      (∀ members, v = .object members → ∀ key ∈ Assoc.keys members, Path.isIndex key = false) ∧
      (∀ items, v = .array items → items.length ≤ 1048577) ∧ ∀ part ∈ v.parts, part.2.Regular := by
  constructor
  · intro h
    refine ⟨?_, ?_, fun part => h.part⟩
    · rintro members rfl
      exact h.names members (.self _)
    · rintro items rfl
      exact h.lengths items (.self _)
  · rintro ⟨hnames, hlengths, hparts⟩
    refine ⟨?_, ?_⟩
    · intro members hwithin
      rcases within_iff.1 hwithin with heq | ⟨part, hpart, hwithin⟩
      · exact hnames members heq.symm
      · exact (hparts part hpart).names members hwithin
    · intro items hwithin
      rcases within_iff.1 hwithin with heq | ⟨part, hpart, hwithin⟩
      · exact hlengths items heq.symm
      · exact (hparts part hpart).lengths items hwithin

theorem regular_object_iff {members : List (String × Json)} :
    (Json.object members).Regular ↔
      (∀ key ∈ Assoc.keys members, Path.isIndex key = false) ∧ ∀ member ∈ members, member.2.Regular := by
  rw [regular_iff, parts]
  constructor
  · rintro ⟨hnames, -, hmembers⟩
    exact ⟨hnames members rfl, hmembers⟩
  · rintro ⟨hnames, hmembers⟩
    refine ⟨?_, by simp, hmembers⟩
    rintro others ⟨rfl⟩
    exact hnames

theorem regular_array_iff {items : List Json} :
    (Json.array items).Regular ↔ items.length ≤ 1048577 ∧ ∀ item ∈ items, item.Regular := by
  rw [regular_iff, parts]
  constructor
  · rintro ⟨-, hlength, hitems⟩
    refine ⟨hlength items rfl, fun item hitem => ?_⟩
    obtain ⟨position, hpart⟩ := exists_mem_parts hitem
    exact hitems _ hpart
  · rintro ⟨hlength, hitems⟩
    refine ⟨by simp, ?_, fun part hpart => ?_⟩
    · rintro others ⟨rfl⟩
      exact hlength
    · exact hitems part.2 (mem_of_mem_parts_array hpart)

theorem regular_of_terminal (hv : v.isTerminal = true) : v.Regular := by
  refine regular_iff.2 ⟨?_, ?_, ?_⟩
  · rintro members rfl
    obtain rfl : members = [] := by simpa [isTerminal] using hv
    simp
  · rintro items rfl
    obtain rfl : items = [] := by simpa [isTerminal] using hv
    simp
  · simp [parts_of_terminal hv]

theorem KeysAvoid.part (h : v.KeysAvoid separator) {part : String × Json} (hpart : part ∈ v.parts) :
    part.2.KeysAvoid separator :=
  fun members hmembers => h members (within_iff.2 (.inr ⟨part, hpart, hmembers⟩))

theorem keysAvoid_object_iff {members : List (String × Json)} :
    (Json.object members).KeysAvoid separator ↔
      (∀ key ∈ Assoc.keys members, Path.Avoids separator key) ∧
      ∀ member ∈ members, member.2.KeysAvoid separator := by
  constructor
  · exact fun h => ⟨h members (.self _), fun member => h.part⟩
  · rintro ⟨hkeys, hmembers⟩ others hwithin
    rcases within_iff.1 hwithin with heq | ⟨member, hmember, hwithin⟩
    · cases heq
      exact hkeys
    · exact hmembers member hmember others hwithin

theorem keysAvoid_array_iff {items : List Json} :
    (Json.array items).KeysAvoid separator ↔ ∀ item ∈ items, item.KeysAvoid separator := by
  constructor
  · exact fun h item hitem members hwithin => h members (.item hitem hwithin)
  · intro h members hwithin
    cases hwithin with
    | item hitem hwithin => exact h _ hitem members hwithin

theorem keysAvoid_of_terminal (hv : v.isTerminal = true) : v.KeysAvoid separator := by
  intro members hwithin
  rcases within_iff.1 hwithin with rfl | ⟨part, hpart, -⟩
  · obtain rfl : members = [] := by simpa [isTerminal] using hv
    simp
  · simp [parts_of_terminal hv] at hpart

/-- Positions avoid a separator without digits. -/
theorem avoids_ofIndex (hdigit : ∀ c ∈ separator.toList, c.isDigit = false) (position : Nat) :
    Path.Avoids separator (Path.ofIndex position) := by
  intro c hc hmem
  rw [Path.toList_ofIndex] at hc
  have hc := Nat.isDigit_of_mem_toDigits (by decide) (by decide) hc
  rw [hdigit c hmem] at hc
  cases hc

theorem KeysAvoid.avoids (h : v.KeysAvoid separator)
    (hdigit : ∀ c ∈ separator.toList, c.isDigit = false) {part : String × Json} (hpart : part ∈ v.parts) :
    Path.Avoids separator part.1 := by
  cases v with
  | null | bool _ | number _ | string _ => simp [parts] at hpart
  | object members => exact h members (.self _) part.1 (List.mem_map_of_mem hpart)
  | array items =>
    obtain ⟨entry, -, rfl⟩ := List.mem_map.1 hpart
    exact avoids_ofIndex hdigit entry.2

/-- The segments of a value's paths avoid the separator. -/
theorem KeysAvoid.avoids_of_mem_leaves (h : v.KeysAvoid separator)
    (hdigit : ∀ c ∈ separator.toList, c.isDigit = false) {leaf : List String × Json}
    (hleaf : leaf ∈ v.tree.leaves) : ∀ segment ∈ leaf.1, Path.Avoids separator segment := by
  induction v using parts_induction generalizing leaf with
  | hterminal v hv =>
    rw [tree_of_terminal hv, PathTree.leaves, List.mem_singleton] at hleaf
    simp [hleaf]
  | hcontainer v hv ih =>
    obtain ⟨part, hpart, below, hbelow, rfl⟩ := (mem_leaves_of_container hv).1 hleaf
    exact List.forall_mem_cons.2 ⟨h.avoids hdigit hpart, ih part hpart (h.part hpart) hbelow⟩

end Parts

section Build

variable {separator path : String}

/-- The children of an object make the object again if none of its keys reads as a position and each of its
values is made again. -/
private theorem build_object_iff {members : List (String × Json)}
    (hmembers : ∀ member ∈ members, ∀ path,
      PathTree.build separator path member.2.tree = .ok member.2 ↔ member.2.Regular) :
    PathTree.build separator path (.branch (members.map fun member => (member.1, member.2.tree))) =
        .ok (.object members) ↔
      (∀ key ∈ Assoc.keys members, Path.isIndex key = false) ∧ ∀ member ∈ members, member.2.Regular := by
  rw [PathTree.build_branch_eq_ok_iff]
  constructor
  · rintro (⟨others, hothers, hnames, heq⟩ | ⟨-, placed, -, heq⟩)
    · cases heq
      rw [List.forall₂_map_left_iff, List.forall₂_same] at hothers
      refine ⟨?_, fun member hmember => (hmembers member hmember _).1 (hothers member hmember).2⟩
      intro key hkey
      obtain ⟨value, hmember⟩ := Assoc.mem_keys_iff.1 hkey
      exact hnames _ (List.mem_map_of_mem hmember)
    · cases heq
  · rintro ⟨hnames, hregular⟩
    refine .inl ⟨members, ?_, ?_, rfl⟩
    · rw [List.forall₂_map_left_iff, List.forall₂_same]
      exact fun member hmember => ⟨rfl, (hmembers member hmember _).2 (hregular member hmember)⟩
    · intro child hchild
      obtain ⟨member, hmember, rfl⟩ := List.mem_map.1 hchild
      exact hnames member.1 (List.mem_map_of_mem hmember)

/-- The children of an array make the array again if it is not too long and each of its items is made
again. -/
private theorem build_array_iff {items : List Json} (hne : items ≠ [])
    (hitems : ∀ item ∈ items, ∀ path, PathTree.build separator path item.tree = .ok item ↔ item.Regular) :
    PathTree.build separator path
        (.branch (items.zipIdx.map fun entry => (Path.ofIndex entry.2, entry.1.tree))) = .ok (.array items) ↔
      items.length ≤ 1048577 ∧ ∀ item ∈ items, item.Regular := by
  rw [PathTree.build_branch_eq_ok_iff]
  constructor
  · rintro (⟨others, -, -, heq⟩ | ⟨-, placed, hplaced, heq⟩)
    · cases heq
    have hfill : items = PathTree.fill placed := by simpa using heq
    have hpositions : (placed.map Prod.fst).Nodup := by
      refine PathTree.nodup_of_keys_eq ?_ (map_eq_map_of_forall₂ hplaced fun _ _ hentry => hentry.1)
      simpa [Assoc.keys, Function.comp_def] using nodup_positions items
    have hplacedItem (position : Nat) (item : Json) (h : items[position]? = some item) :
        position ≤ 1048576 ∧ item.Regular := by
      have hmem : (item, position) ∈ items.zipIdx := List.mem_zipIdx_iff_getElem?.2 h
      obtain ⟨⟨other, value⟩, hentry, hsegment, hle, hbuild⟩ :=
        exists_right_of_forall₂ hplaced (List.mem_map_of_mem hmem)
      obtain rfl := Path.ofIndex_inj.1 hsegment
      have hvalue := PathTree.getElem?_fill_of_mem hpositions hentry
      rw [← hfill, h] at hvalue
      obtain rfl := Option.some.inj hvalue
      exact ⟨hle, (hitems item (List.mem_of_getElem? h) _).1 hbuild⟩
    refine ⟨?_, ?_⟩
    · have hpos := List.length_pos_iff.2 hne
      have hlast := (hplacedItem (items.length - 1) _ (List.getElem?_eq_getElem (by omega))).1
      omega
    · intro item hitem
      obtain ⟨position, hposition⟩ := List.mem_iff_getElem?.1 hitem
      exact (hplacedItem position item hposition).2
  · rintro ⟨hlength, hregular⟩
    refine .inr ⟨by simpa using hne, items.zipIdx.map Prod.swap, ?_, ?_⟩
    · rw [List.forall₂_map_left_iff, List.forall₂_map_right_iff, List.forall₂_same]
      intro entry hentry
      have hitem := List.mem_zipIdx_iff_getElem?.1 hentry
      have hmem := List.mem_of_getElem? hitem
      have hlt := (List.getElem?_eq_some_iff.1 hitem).1
      exact ⟨rfl, by simp only [Prod.fst_swap]; omega, (hitems _ hmem _).2 (hregular _ hmem)⟩
    · rw [PathTree.fill_zipIdx hne]

/-- A value's tree stands for the value exactly if its containers can be told from their segments. -/
theorem build_tree_eq_ok_iff {v : Json} :
    PathTree.build separator path v.tree = .ok v ↔ v.Regular := by
  induction v using places_induction generalizing path with
  | hterminal v hterminal =>
    rw [tree_of_terminal hterminal, PathTree.build]
    exact iff_of_true rfl (regular_of_terminal hterminal)
  | harray items hne ih =>
    have hcontainer : (Json.array items).isTerminal = false := by simpa [isTerminal] using hne
    rw [tree_of_container hcontainer, parts, List.map_map]
    exact (build_array_iff hne fun item hitem path => ih item hitem).trans regular_array_iff.symm
  | hobject members hne ih =>
    have hcontainer : (Json.object members).isTerminal = false := by simpa [isTerminal] using hne
    rw [tree_of_container hcontainer, parts]
    exact (build_object_iff fun member hmember path => ih member hmember).trans regular_object_iff.symm

end Build

section View

variable {separator : String} {v : Json}

/-- The paths of a container's leaves begin with a text, if no key is empty at the root. -/
theorem exists_cons_of_mem_leaves (hcontainer : v.isTerminal = false)
    (hroot : ∀ members, v = .object members → "" ∉ Assoc.keys members) {leaf : List String × Json}
    (hleaf : leaf ∈ v.tree.leaves) : ∃ segment rest, leaf.1 = segment :: rest ∧ segment ≠ "" := by
  obtain ⟨part, hpart, below, hbelow, rfl⟩ := (mem_leaves_of_container hcontainer).1 hleaf
  refine ⟨part.1, below.1, rfl, ?_⟩
  cases v with
  | null | bool _ | number _ | string _ => simp [isTerminal] at hcontainer
  | object members =>
    intro heq
    exact hroot members rfl (heq ▸ List.mem_map_of_mem hpart)
  | array items =>
    obtain ⟨entry, -, rfl⟩ := List.mem_map.1 hpart
    exact Path.ofIndex_ne_empty entry.2

variable (hsep : separator ≠ "") (hdigit : ∀ c ∈ separator.toList, c.isDigit = false)
  (hkeys : v.KeysAvoid separator) (hcontainer : v.isTerminal = false)
  (hroot : ∀ members, v = .object members → "" ∉ Assoc.keys members)

include hsep hdigit hkeys hcontainer hroot

/-- The path of a leaf is cut into the segments that lead to the leaf. -/
theorem segments_descend_of_mem_leaves {leaf : List String × Json} (hleaf : leaf ∈ v.tree.leaves) :
    Path.segments separator (Path.descend separator "" leaf.1) = leaf.1 := by
  have havoids := hkeys.avoids_of_mem_leaves hdigit hleaf
  obtain ⟨segment, rest, hpath, hne⟩ := exists_cons_of_mem_leaves hcontainer hroot hleaf
  rw [hpath] at havoids ⊢
  exact Path.segments_descend_empty hsep hne havoids

omit hcontainer in
/-- A value whose keys avoid the separator is spelled out by its paths, if no key is lost at the root. -/
theorem spelled_of_keysAvoid : v.Spelled separator := by
  intro leaf hleaf hne
  have hcontainer : v.isTerminal = false := by
    by_contra hterminal
    rw [leaves_of_terminal (by simpa using hterminal), List.mem_singleton] at hleaf
    exact hne (by rw [hleaf])
  have hfound := segments_descend_of_mem_leaves hsep hdigit hkeys hcontainer hroot hleaf
  refine ⟨fun hempty => ?_, hfound⟩
  obtain ⟨segment, rest, hpath, hsegment⟩ := exists_cons_of_mem_leaves hcontainer hroot hleaf
  rw [hempty, Path.segments_empty, hpath] at hfound
  exact hsegment (List.cons.inj hfound).1.symm

/-- The tree of a container is made from its flat view, if no key is lost at the root. -/
theorem ofView_flatten (hv : v.WellFormed) :
    "" ∉ (v.flatten separator).keys ∧ PathTree.ofView separator (v.flatten separator) =
      .ok (v.parts.map fun part => (part.1, part.2.tree)) :=
  (spelled_of_keysAvoid hsep hdigit hkeys hroot).ofView_flatten hv hcontainer

end View

/-- An entry of a value's flat view is one of the leaves under its path. -/
theorem exists_leaf_of_mem_flatten {separator : String} {v : Json} {entry : String × Json}
    (hentry : entry ∈ (v.flatten separator).entries) :
    ∃ leaf ∈ v.tree.leaves, Path.descend separator "" leaf.1 = entry.1 ∧ leaf.2 = entry.2 := by
  have hterminal := OrderedMap.mem_of_mem_entries_ofList hentry
  rw [terminals_eq] at hterminal
  obtain ⟨leaf, hleaf, rfl⟩ := List.mem_map.1 hterminal
  exact ⟨leaf, hleaf, rfl, rfl⟩

theorem isTerminal_of_mem_flatten {separator : String} {v : Json} {entry : String × Json}
    (hentry : entry ∈ (v.flatten separator).entries) : entry.2.isTerminal = true := by
  obtain ⟨leaf, hleaf, -, hvalue⟩ := exists_leaf_of_mem_flatten hentry
  exact hvalue ▸ isTerminal_of_mem_leaves hleaf

/-- Every value has a terminal. -/
theorem keys_flatten_ne_nil (separator : String) (v : Json) : (v.flatten separator).keys ≠ [] := by
  obtain ⟨leaf, leaves, hleaves⟩ := List.exists_cons_of_ne_nil (fruitful_tree v).leaves_ne_nil
  refine List.ne_nil_of_mem (a := Path.descend separator "" leaf.1) ?_
  rw [flatten, flattenBelow, OrderedMap.mem_keys_ofList_iff, terminals_eq, hleaves]
  exact List.mem_cons_self

/-- A value with an empty key at the root does not come back: no path begins with the separator, which
is what would lead to such a key. -/
theorem root_of_deflate_flatten {separator : String} (hsep : separator ≠ "")
    (hdigit : ∀ c ∈ separator.toList, c.isDigit = false) {members : List (String × Json)}
    (hkeys : (Json.object members).KeysAvoid separator)
    (h : ((Json.object members).flatten separator).deflate separator = .ok (.object members)) :
    "" ∉ Assoc.keys members := by
  intro hempty
  rcases (FlatView.deflate_eq_ok_iff hsep).1 h with hentries | ⟨hroot, -⟩
  · have hentry : ("", Json.object members) ∈ ((Json.object members).flatten separator).entries := by
      rw [hentries]
      exact List.mem_singleton_self _
    have hterminal := isTerminal_of_mem_flatten hentry
    obtain rfl : members = [] := by simpa [isTerminal] using hterminal
    simp at hempty
  have hcarries := FlatView.carries_of_deflate_eq_ok hsep hroot h
  have hnames : ¬ ∃ position,
      (((Json.object members).flatten separator).content separator).Continues [] (Path.ofIndex position) := by
    intro hposition
    obtain ⟨items, last, hitems, -⟩ := hcarries.array [] hposition
    cases hitems
  have hopens : (((Json.object members).flatten separator).content separator).Opens [] := by
    refine .inr ⟨rfl, ?_⟩
    rintro value ⟨key, -, hkey⟩
    exact Path.segments_ne_nil separator key hkey
  obtain ⟨others, hothers, -, hmembers⟩ := hcarries.object [] hopens (Content.names_of_no_position hnames)
  cases hothers
  obtain ⟨rest, value, key, hentry, hsegments⟩ := (hmembers "").1 hempty
  obtain ⟨leaf, hleaf, hkey, -⟩ := exists_leaf_of_mem_flatten hentry
  obtain rfl : Path.descend separator "" leaf.1 = key := hkey
  have hne : Path.descend separator "" leaf.1 ≠ "" := fun heq =>
    hroot (heq ▸ Assoc.mem_keys_of_mem hentry)
  have hpath : leaf.1 ≠ [] := fun heq => hne (by rw [heq, Path.descend_nil])
  have hfound := Path.segments_ofSegments hsep hpath (hkeys.avoids_of_mem_leaves hdigit hleaf)
  exact Path.segments_descend_empty_ne hsep hfound hne rest hsegments

/-- A value comes back from its flat view, with every scalar, item and member in its place, exactly if
it has no empty key at the root, no key that reads as a position and no array beyond the limit. -/
theorem deflate_flatten_eq_ok_iff {separator : String} (hsep : separator ≠ "")
    (hdigit : ∀ c ∈ separator.toList, c.isDigit = false) {v : Json} (hv : v.WellFormed)
    (hkeys : v.KeysAvoid separator) :
    (v.flatten separator).deflate separator = .ok v ↔ v.Rebuildable := by
  by_cases hterminal : v.isTerminal = true
  · have hentries : (v.flatten separator).entries = [("", v)] := by
      rw [flatten, flattenBelow, terminals_of_terminal hterminal, OrderedMap.entries_ofList (by simp)]
    refine iff_of_true ((FlatView.deflate_eq_ok_iff hsep).2 (.inl hentries))
      ⟨regular_of_terminal hterminal, ?_⟩
    rintro members rfl
    obtain rfl : members = [] := by simpa [isTerminal] using hterminal
    simp
  have hcontainer : v.isTerminal = false := by simpa using hterminal
  constructor
  · intro h
    have hroot : ∀ members, v = .object members → "" ∉ Assoc.keys members := by
      rintro members rfl
      exact root_of_deflate_flatten hsep hdigit hkeys h
    obtain ⟨hempty, htree⟩ := ofView_flatten hsep hdigit hkeys hcontainer hroot hv
    rcases (FlatView.deflate_eq_ok_iff hsep).1 h with hentries | ⟨-, children, hchildren, hbuild⟩
    · exact absurd (OrderedMap.mem_keys_iff.2 ⟨v, by simp [hentries]⟩) hempty
    · obtain rfl := Except.ok.inj (htree.symm.trans hchildren)
      rw [← tree_of_container hcontainer] at hbuild
      exact ⟨build_tree_eq_ok_iff.1 hbuild, hroot⟩
  · intro h
    obtain ⟨hempty, htree⟩ := ofView_flatten hsep hdigit hkeys hcontainer h.root hv
    refine (FlatView.deflate_eq_ok_iff hsep).2 (.inr ⟨hempty, _, htree, ?_⟩)
    rw [← tree_of_container hcontainer]
    exact build_tree_eq_ok_iff.2 h.toRegular

/-- An empty key below the root comes back, and so does an empty array. -/
theorem deflate_flatten_empty_key :
    let v : Json := .object [("a", .object [("", .array [])])]
    (v.flatten ".").deflate "." = .ok v ∧ v.Rebuildable := by
  intro v
  have h : (v.flatten ".").deflate "." = .ok v := by rfl
  have hv : v.WellFormed := by simp [v, WellFormed, WellFormedMembers, WellFormedItems]
  have hkeys : v.KeysAvoid "." := by
    intro members hwithin key hkey
    rcases within_iff.1 hwithin with heq | ⟨part, hpart, hwithin⟩
    · obtain rfl : members = [("a", .object [("", .array [])])] := by simpa [v] using heq
      obtain rfl : key = "a" := by simpa using hkey
      simp [Path.Avoids]
    obtain rfl : part = ("a", .object [("", .array [])]) := by simpa [v, parts] using hpart
    rcases within_iff.1 hwithin with heq | ⟨part, hpart, hwithin⟩
    · obtain rfl : members = [("", .array [])] := by simpa using heq
      obtain rfl : key = "" := by simpa using hkey
      simp [Path.Avoids]
    obtain rfl : part = ("", .array []) := by simpa [parts] using hpart
    rcases within_iff.1 hwithin with heq | ⟨part, hpart, -⟩
    · cases heq
    · simp [parts] at hpart
  exact ⟨h, (deflate_flatten_eq_ok_iff (by decide) (by simp) hv hkeys).1 h⟩

end Json

end FieldRules
