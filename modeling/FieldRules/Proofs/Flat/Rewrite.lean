import FieldRules.Proofs.Flat.Address

/-!
Values rewritten in their places. A view that has kept the keys of a value's flat view is rebuilt to that value
with the view's values in the places of its terminals, whatever these values are. As long as they are terminals
too, the view is the flat view of what it is rebuilt to.
-/

namespace FieldRules

theorem OrderedMap.entries_eq_map_keys {α : Type _} (m : OrderedMap α) (other : α) :
    m.entries = m.keys.map fun key => (key, (m.get? key).getD other) := by
  rw [keys, Assoc.keys, List.map_map]
  conv_lhs => rw [← List.map_id m.entries]
  refine List.map_congr_left fun entry hentry => ?_
  have hvalue : m.get? entry.1 = some entry.2 := get?_eq_some_iff.2 hentry
  simp [hvalue]

theorem PathTree.fill_map_zipIdx {items : List Json} (hne : items ≠ []) (f : Json × Nat → Json) :
    fill (items.zipIdx.map fun entry => (entry.2, f entry)) = items.zipIdx.map f := by
  have hplaced : (items.zipIdx.map fun entry => (entry.2, f entry)) =
      (items.zipIdx.map f).zipIdx.map Prod.swap := by
    apply List.ext_getElem?
    intro position
    simp only [List.getElem?_map, List.getElem?_zipIdx, Option.map_map, Nat.zero_add]
    rfl
  rw [hplaced, fill_zipIdx (by simpa using hne)]

namespace Json

mutual

/-- The value with other values in the places of its terminals, each made of the terminal and the steps that
lead to it. -/
def mapPlaces (f : List Step → Json → Json) : Json → Json
  | .array (item :: rest) => .array (mapItems f 0 (item :: rest))
  | .object (member :: rest) => .object (mapMembers f (member :: rest))
  | v => f [] v

def mapItems (f : List Step → Json → Json) (position : Nat) : List Json → List Json
  | [] => []
  | item :: rest =>
    mapPlaces (fun steps => f (.position position :: steps)) item :: mapItems f (position + 1) rest

def mapMembers (f : List Step → Json → Json) : List (String × Json) → List (String × Json)
  | [] => []
  | (key, value) :: rest =>
    (key, mapPlaces (fun steps => f (.key key :: steps)) value) :: mapMembers f rest

end

theorem mapPlaces_of_terminal {v : Json} (hv : v.isTerminal = true) (f : List Step → Json → Json) :
    v.mapPlaces f = f [] v := by
  match v with
  | .null | .bool _ | .number _ | .string _ | .array [] | .object [] => simp [mapPlaces]
  | .array (_ :: _) | .object (_ :: _) => simp [isTerminal] at hv

private theorem mapItems_eq (f : List Step → Json → Json) (position : Nat) (items : List Json) :
    mapItems f position items = (items.zipIdx position).map fun entry =>
      entry.1.mapPlaces fun steps => f (.position entry.2 :: steps) := by
  induction items generalizing position with
  | nil => rfl
  | cons item rest ih => rw [mapItems, ih, List.zipIdx_cons, List.map_cons]

theorem mapPlaces_array {items : List Json} (hne : items ≠ []) (f : List Step → Json → Json) :
    (Json.array items).mapPlaces f = .array (items.zipIdx.map fun entry =>
      entry.1.mapPlaces fun steps => f (.position entry.2 :: steps)) := by
  obtain ⟨item, rest, rfl⟩ := List.exists_cons_of_ne_nil hne
  rw [mapPlaces, mapItems_eq]

private theorem mapMembers_eq (f : List Step → Json → Json) (members : List (String × Json)) :
    mapMembers f members = members.map fun member =>
      (member.1, member.2.mapPlaces fun steps => f (.key member.1 :: steps)) := by
  induction members with
  | nil => rfl
  | cons member rest ih => rw [mapMembers, ih, List.map_cons]

theorem mapPlaces_object {members : List (String × Json)} (hne : members ≠ []) (f : List Step → Json → Json) :
    (Json.object members).mapPlaces f = .object (members.map fun member =>
      (member.1, member.2.mapPlaces fun steps => f (.key member.1 :: steps))) := by
  obtain ⟨member, rest, rfl⟩ := List.exists_cons_of_ne_nil hne
  rw [mapPlaces, mapMembers_eq]

/-- Other values at the leaves of a value's tree are other values in its places. -/
theorem build_mapLeaves {v : Json} (hregular : v.Regular) (separator path : String)
    (f : List String → Json → Json) :
    PathTree.build separator path (v.tree.mapLeaves f) =
      .ok (v.mapPlaces fun steps => f (steps.map Step.segment)) := by
  induction v using places_induction generalizing path f with
  | hterminal v hv =>
    rw [tree_of_terminal hv, PathTree.mapLeaves, PathTree.build, mapPlaces_of_terminal hv, List.map_nil]
  | harray items hne ih =>
    obtain ⟨hlength, hitems⟩ := regular_array_iff.1 hregular
    have hcontainer : (Json.array items).isTerminal = false := by simpa [isTerminal] using hne
    rw [tree_of_container hcontainer, PathTree.mapLeaves, PathTree.mapChildren_eq_map, parts, List.map_map,
      List.map_map, mapPlaces_array hne, PathTree.build_branch_eq_ok_iff]
    refine .inr ⟨by simpa using hne, items.zipIdx.map fun entry => (entry.2, entry.1.mapPlaces fun steps =>
      f (Path.ofIndex entry.2 :: steps.map Step.segment)), ?_, ?_⟩
    · rw [List.forall₂_map_left_iff, List.forall₂_map_right_iff, List.forall₂_same]
      intro entry hentry
      have hitem := List.mem_zipIdx_iff_getElem?.1 hentry
      have hlt := (List.getElem?_eq_some_iff.1 hitem).1
      have hmem := List.mem_of_getElem? hitem
      refine ⟨rfl, ?_, ih entry.1 hmem (hitems entry.1 hmem) _ _⟩
      dsimp only
      omega
    · rw [PathTree.fill_map_zipIdx hne]
      simp only [List.map_cons, Step.segment]
  | hobject members hne ih =>
    obtain ⟨hnames, hmembers⟩ := regular_object_iff.1 hregular
    have hcontainer : (Json.object members).isTerminal = false := by simpa [isTerminal] using hne
    rw [tree_of_container hcontainer, PathTree.mapLeaves, PathTree.mapChildren_eq_map, parts, List.map_map,
      mapPlaces_object hne, PathTree.build_branch_eq_ok_iff]
    refine .inl ⟨_, ?_, ?_, rfl⟩
    · rw [List.forall₂_map_left_iff, List.forall₂_map_right_iff, List.forall₂_same]
      intro member hmember
      exact ⟨rfl, ih member hmember (hmembers member hmember) _ _⟩
    · intro child hchild
      obtain ⟨member, hmember, rfl⟩ := List.mem_map.1 hchild
      exact hnames member.1 (List.mem_map_of_mem hmember)

/-- A container keeps its parts in their places, each of them rewritten. -/
theorem parts_mapPlaces {v : Json} (hv : v.isTerminal = false) (f : List String → Json → Json) :
    (v.mapPlaces fun steps => f (steps.map Step.segment)).isTerminal = false ∧
      (v.mapPlaces fun steps => f (steps.map Step.segment)).parts = v.parts.map fun part =>
        (part.1, part.2.mapPlaces fun steps => f (part.1 :: steps.map Step.segment)) := by
  cases v with
  | null | bool _ | number _ | string _ => simp [isTerminal] at hv
  | array items =>
    have hne : items ≠ [] := by simpa [isTerminal] using hv
    rw [mapPlaces_array hne]
    refine ⟨by simpa [isTerminal] using hne, ?_⟩
    apply List.ext_getElem?
    intro position
    simp only [parts, List.getElem?_map, List.getElem?_zipIdx, Option.map_map, Nat.zero_add]
    rfl
  | object members =>
    have hne : members ≠ [] := by simpa [isTerminal] using hv
    rw [mapPlaces_object hne]
    exact ⟨by simpa [isTerminal] using hne, rfl⟩

/-- With terminals in its places, the tree of a value has these at its leaves. -/
theorem tree_mapPlaces {v : Json} {f : List String → Json → Json}
    (hf : ∀ leaf ∈ v.tree.leaves, (f leaf.1 leaf.2).isTerminal = true) :
    (v.mapPlaces fun steps => f (steps.map Step.segment)).tree = v.tree.mapLeaves f := by
  induction v using parts_induction generalizing f with
  | hterminal v hv =>
    rw [leaves_of_terminal hv] at hf
    rw [mapPlaces_of_terminal hv, tree_of_terminal hv, PathTree.mapLeaves, List.map_nil,
      tree_of_terminal (hf _ (List.mem_singleton_self _))]
  | hcontainer v hv ih =>
    obtain ⟨hmapped, hparts⟩ := parts_mapPlaces hv f
    rw [tree_of_container hmapped, hparts, tree_of_container hv, PathTree.mapLeaves,
      PathTree.mapChildren_eq_map, List.map_map, List.map_map]
    congr 1
    refine List.map_congr_left fun part hpart => ?_
    have hpart := ih part hpart (f := fun path => f (part.1 :: path)) fun leaf hleaf =>
      hf (part.1 :: leaf.1, leaf.2) ((mem_leaves_of_container hv).2 ⟨part, hpart, leaf, hleaf, rfl⟩)
    simp only [Function.comp_apply, hpart]

section View

variable {separator : String} {v : Json}

/-- The value that a view has for a path of segments. -/
def valueAt (separator : String) (view : FlatView) (path : List String) : Json :=
  (view.get? (Path.descend separator "" path)).getD .null

variable (hspelled : v.Spelled separator) (hv : v.WellFormed) {view : FlatView}
  (hkeys : view.keys = (v.flatten separator).keys)

include hspelled hv hkeys

theorem entries_eq_map_leaves :
    view.entries = v.tree.leaves.map fun leaf =>
      (Path.descend separator "" leaf.1, valueAt separator view leaf.1) := by
  rw [view.entries_eq_map_keys .null, hkeys, OrderedMap.keys, hspelled.entries_flatten hv, Assoc.keys,
    List.map_map, List.map_map]
  rfl

/-- A view with the keys of a value's flat view is rebuilt to that value, with the view's values in the places
of its terminals. -/
theorem deflate_of_keys_eq (hsep : separator ≠ "") (hregular : v.Regular) :
    view.deflate separator = .ok (v.mapPlaces fun steps _ => valueAt separator view (steps.map Step.segment)) := by
  have hentries := entries_eq_map_leaves hspelled hv hkeys
  rw [FlatView.deflate_eq_ok_iff hsep]
  cases hterminal : v.isTerminal with
  | true =>
    rw [leaves_of_terminal hterminal] at hentries
    rw [mapPlaces_of_terminal hterminal]
    exact .inl hentries
  | false =>
    obtain ⟨hempty, htree⟩ := hspelled.ofView_eq_ok hv hterminal
      (f := fun path _ => valueAt separator view path) hentries
    refine .inr ⟨hempty, _, htree, ?_⟩
    have hbuild := build_mapLeaves hregular separator "" fun path _ => valueAt separator view path
    rwa [tree_of_container hterminal, PathTree.mapLeaves] at hbuild

/-- While a view with the keys of a value's flat view has terminals only, it is the flat view of the value that
it is rebuilt to. -/
theorem flatten_mapPlaces (hterminals : ∀ entry ∈ view.entries, entry.2.isTerminal = true) :
    (v.mapPlaces fun steps _ => valueAt separator view (steps.map Step.segment)).flatten separator = view := by
  have hentries := entries_eq_map_leaves hspelled hv hkeys
  have hleaves : ∀ leaf ∈ v.tree.leaves, (valueAt separator view leaf.1).isTerminal = true := by
    intro leaf hleaf
    have hentry : (Path.descend separator "" leaf.1, valueAt separator view leaf.1) ∈ view.entries := by
      rw [hentries]
      exact List.mem_map.2 ⟨leaf, hleaf, rfl⟩
    exact hterminals _ hentry
  have hpaths : (v.mapPlaces fun steps _ => valueAt separator view (steps.map Step.segment)).terminals
      separator "" = view.entries := by
    rw [terminals_eq, tree_mapPlaces (f := fun path _ => valueAt separator view path) hleaves,
      PathTree.leaves_mapLeaves, List.map_map, hentries]
    rfl
  rw [flatten, flattenBelow, hpaths, OrderedMap.ofList_entries]

end View

end Json

end FieldRules
