import FieldRules.Proofs.Flat.Build
import FieldRules.Proofs.Flat.Leaves
import FieldRules.Proofs.Flat.Path

/-!
The tree of a value: its containers as branches and its terminals as leaves. The leaves are the
terminals of the flat view, and the value is made again from its tree if none of its objects could be
taken for an array and none of its arrays is too long.
-/

namespace FieldRules.Json

mutual

/-- The containers of a value as branches down to its terminals. -/
def tree : Json → PathTree
  | .array (item :: rest) => .branch (itemTrees 0 (item :: rest))
  | .object (member :: rest) => .branch (memberTrees (member :: rest))
  | v => .leaf v

def itemTrees (position : Nat) : List Json → List (String × PathTree)
  | [] => []
  | item :: rest => (Path.ofIndex position, tree item) :: itemTrees (position + 1) rest

def memberTrees : List (String × Json) → List (String × PathTree)
  | [] => []
  | (key, value) :: rest => (key, tree value) :: memberTrees rest

end

/-- The values in a container, each under its segment. -/
def parts : Json → List (String × Json)
  | .array items => items.zipIdx.map fun entry => (Path.ofIndex entry.2, entry.1)
  | .object members => members
  | _ => []

/-- The parts of an array are its items, each under the text of its position. -/
theorem mem_parts_array_iff {items : List Json} {part : String × Json} :
    part ∈ (Json.array items).parts ↔ ∃ position, part.1 = Path.ofIndex position ∧ items[position]? = some part.2 := by
  obtain ⟨segment, item⟩ := part
  rw [parts, List.mem_map]
  constructor
  · rintro ⟨⟨other, position⟩, hentry, heq⟩
    cases heq
    exact ⟨position, rfl, List.mem_zipIdx_iff_getElem?.1 hentry⟩
  · rintro ⟨position, rfl, hitem⟩
    exact ⟨(item, position), List.mem_zipIdx_iff_getElem?.2 hitem, rfl⟩

theorem exists_mem_parts {items : List Json} {item : Json} (h : item ∈ items) :
    ∃ position, (Path.ofIndex position, item) ∈ (Json.array items).parts := by
  obtain ⟨position, hposition⟩ := List.mem_iff_getElem?.1 h
  exact ⟨position, mem_parts_array_iff.2 ⟨position, rfl, hposition⟩⟩

theorem mem_of_mem_parts_array {items : List Json} {part : String × Json} (h : part ∈ (Json.array items).parts) :
    part.2 ∈ items := by
  obtain ⟨position, -, hitem⟩ := mem_parts_array_iff.1 h
  exact List.mem_of_getElem? hitem

/-- Induction on a value through the parts of its containers. -/
theorem parts_induction {motive : Json → Prop} (hterminal : ∀ v, v.isTerminal = true → motive v)
    (hcontainer : ∀ v, v.isTerminal = false → (∀ part ∈ v.parts, motive part.2) → motive v) (v : Json) :
    motive v := by
  induction v using places_induction with
  | hterminal v hv => exact hterminal v hv
  | harray items hne ih =>
    refine hcontainer (.array items) (by simpa [isTerminal] using hne) ?_
    exact fun part hpart => ih part.2 (mem_of_mem_parts_array hpart)
  | hobject members hne ih => exact hcontainer (.object members) (by simpa [isTerminal] using hne) ih

theorem tree_of_terminal {v : Json} (hv : v.isTerminal = true) : v.tree = .leaf v := by
  match v with
  | .null | .bool _ | .number _ | .string _ | .array [] | .object [] => rfl
  | .array (_ :: _) | .object (_ :: _) => simp [isTerminal] at hv

private theorem itemTrees_eq (position : Nat) (items : List Json) :
    itemTrees position items =
      (items.zipIdx position).map fun entry => (Path.ofIndex entry.2, entry.1.tree) := by
  induction items generalizing position with
  | nil => rfl
  | cons item rest ih => rw [itemTrees, ih, List.zipIdx_cons, List.map_cons]

private theorem memberTrees_eq (members : List (String × Json)) :
    memberTrees members = members.map fun member => (member.1, member.2.tree) := by
  induction members with
  | nil => rfl
  | cons member rest ih => rw [memberTrees, ih, List.map_cons]

theorem tree_of_container {v : Json} (hv : v.isTerminal = false) :
    v.tree = .branch (v.parts.map fun part => (part.1, part.2.tree)) := by
  match v with
  | .null | .bool _ | .number _ | .string _ | .array [] | .object [] => simp [isTerminal] at hv
  | .array (item :: rest) =>
    rw [tree, itemTrees_eq, parts, List.map_map]
    rfl
  | .object (member :: rest) => rw [tree, memberTrees_eq, parts]

theorem terminals_of_terminal {v : Json} (hv : v.isTerminal = true) (separator path : String) :
    v.terminals separator path = [(path, v)] := by
  match v with
  | .null | .bool _ | .number _ | .string _ | .array [] | .object [] => simp [terminals]
  | .array (_ :: _) | .object (_ :: _) => simp [isTerminal] at hv

private theorem itemTerminals_eq (separator path : String) (position : Nat) (items : List Json) :
    itemTerminals separator path position items = (items.zipIdx position).flatMap fun entry =>
      entry.1.terminals separator (Path.join path (Path.ofIndex entry.2) separator) := by
  induction items generalizing position with
  | nil => rfl
  | cons item rest ih => rw [itemTerminals, ih, List.zipIdx_cons, List.flatMap_cons]

private theorem memberTerminals_eq (separator path : String) (members : List (String × Json)) :
    memberTerminals separator path members = members.flatMap fun member =>
      member.2.terminals separator (Path.join path member.1 separator) := by
  induction members with
  | nil => rfl
  | cons member rest ih => rw [memberTerminals, ih, List.flatMap_cons]

theorem terminals_of_container {v : Json} (hv : v.isTerminal = false) (separator path : String) :
    v.terminals separator path =
      v.parts.flatMap fun part => part.2.terminals separator (Path.join path part.1 separator) := by
  match v with
  | .null | .bool _ | .number _ | .string _ | .array [] | .object [] => simp [isTerminal] at hv
  | .array (item :: rest) => rw [terminals, itemTerminals_eq, parts, List.flatMap_map]
  | .object (member :: rest) => rw [terminals, memberTerminals_eq, parts]

/-- The terminals below a path are the leaves of the tree. -/
theorem terminals_eq (v : Json) (separator path : String) :
    v.terminals separator path =
      v.tree.leaves.map fun leaf => (Path.descend separator path leaf.1, leaf.2) := by
  induction v using parts_induction generalizing path with
  | hterminal v hv =>
    rw [terminals_of_terminal hv, tree_of_terminal hv]
    simp [PathTree.leaves]
  | hcontainer v hv ih =>
    rw [terminals_of_container hv, tree_of_container hv, PathTree.leaves, PathTree.childLeaves_eq_flatMap,
      List.map_flatMap, List.flatMap_map]
    refine List.flatMap_congr fun part hpart => ?_
    rw [ih part hpart]
    simp [PathTree.under, Function.comp_def]

theorem mem_leaves_of_container {v : Json} (hv : v.isTerminal = false) {leaf : List String × Json} :
    leaf ∈ v.tree.leaves ↔
      ∃ part ∈ v.parts, ∃ below ∈ part.2.tree.leaves, leaf = (part.1 :: below.1, below.2) := by
  rw [tree_of_container hv, PathTree.leaves, PathTree.childLeaves_eq_flatMap, List.flatMap_map,
    List.mem_flatMap]
  simp only [PathTree.under, List.mem_map, eq_comm]

/-- The leaves of a tree stand for themselves in a flat view. -/
theorem isTerminal_of_mem_leaves {v : Json} {leaf : List String × Json} (hleaf : leaf ∈ v.tree.leaves) :
    leaf.2.isTerminal = true := by
  induction v using parts_induction generalizing leaf with
  | hterminal v hv =>
    rw [tree_of_terminal hv, PathTree.leaves, List.mem_singleton] at hleaf
    rw [hleaf]
    exact hv
  | hcontainer v hv ih =>
    obtain ⟨part, hpart, below, hbelow, rfl⟩ := (mem_leaves_of_container hv).1 hleaf
    exact @ih part hpart below hbelow

/-- What stands in a value is the value or stands in one of its parts. -/
theorem within_iff {v w : Json} : w.Within v ↔ w = v ∨ ∃ part ∈ v.parts, w.Within part.2 := by
  constructor
  · intro h
    cases h with
    | self => exact .inl rfl
    | @item item items hmem hwithin =>
      obtain ⟨position, hpart⟩ := exists_mem_parts hmem
      exact .inr ⟨_, hpart, hwithin⟩
    | @member member members hmem hwithin => exact .inr ⟨member, hmem, hwithin⟩
  · rintro (rfl | ⟨part, hpart, hwithin⟩)
    · exact .self w
    cases v with
    | null | bool _ | number _ | string _ => simp [parts] at hpart
    | object members => exact .member hpart hwithin
    | array items => exact .item (mem_of_mem_parts_array hpart) hwithin

theorem wellFormed_array_iff {items : List Json} :
    (Json.array items).WellFormed ↔ ∀ item ∈ items, item.WellFormed := by
  rw [WellFormed]
  induction items with
  | nil => simp [WellFormedItems]
  | cons item rest ih => rw [WellFormedItems, ih, List.forall_mem_cons]

theorem wellFormed_object_iff {members : List (String × Json)} :
    (Json.object members).WellFormed ↔
      (Assoc.keys members).Nodup ∧ ∀ member ∈ members, member.2.WellFormed := by
  have hmembers (members : List (String × Json)) :
      WellFormedMembers members ↔ ∀ member ∈ members, member.2.WellFormed := by
    induction members with
    | nil => simp [WellFormedMembers]
    | cons member rest ih => rw [WellFormedMembers, ih, List.forall_mem_cons]
  rw [WellFormed, hmembers]

theorem WellFormed.part {v : Json} (h : v.WellFormed) {part : String × Json} (hpart : part ∈ v.parts) :
    part.2.WellFormed := by
  cases v with
  | null | bool _ | number _ | string _ => simp [parts] at hpart
  | object members => exact (wellFormed_object_iff.1 h).2 part hpart
  | array items => exact wellFormed_array_iff.1 h part.2 (mem_of_mem_parts_array hpart)

theorem nodup_positions (items : List Json) :
    (items.zipIdx.map fun entry => Path.ofIndex entry.2).Nodup := by
  have hpositions : (items.zipIdx.map Prod.snd).Nodup := by
    rw [List.zipIdx_map_snd]
    exact List.nodup_range'
  have hmap : (items.zipIdx.map fun entry => Path.ofIndex entry.2) =
      (items.zipIdx.map Prod.snd).map Path.ofIndex := by
    rw [List.map_map]
    rfl
  rw [hmap]
  exact hpositions.map fun _ _ heq => Path.ofIndex_inj.1 heq

/-- The parts of a container stand under distinct segments. -/
theorem WellFormed.nodup_parts {v : Json} (h : v.WellFormed) : (Assoc.keys v.parts).Nodup := by
  cases v with
  | null | bool _ | number _ | string _ => simp [parts]
  | object members => exact h.1
  | array items =>
    rw [parts, Assoc.keys, List.map_map]
    exact nodup_positions items

theorem WellFormed.distinct_tree {v : Json} (h : v.WellFormed) : v.tree.Distinct := by
  induction v using parts_induction with
  | hterminal v hv =>
    rw [tree_of_terminal hv]
    exact .leaf v
  | hcontainer v hv ih =>
    rw [tree_of_container hv]
    refine .branch ?_ ?_
    · simpa [Assoc.keys, Function.comp_def] using h.nodup_parts
    · intro child hchild
      obtain ⟨part, hpart, rfl⟩ := List.mem_map.1 hchild
      exact ih part hpart (h.part hpart)

theorem parts_of_terminal {v : Json} (hv : v.isTerminal = true) : v.parts = [] := by
  cases v with
  | null | bool _ | number _ | string _ => rfl
  | array items =>
    obtain rfl : items = [] := by simpa [isTerminal] using hv
    rfl
  | object members => simpa [isTerminal, parts] using hv

theorem parts_ne_nil {v : Json} (hv : v.isTerminal = false) : v.parts ≠ [] := by
  match v with
  | .null | .bool _ | .number _ | .string _ | .array [] | .object [] => simp [isTerminal] at hv
  | .array (_ :: _) | .object (_ :: _) => simp [parts]

theorem fruitful_tree (v : Json) : v.tree.Fruitful := by
  induction v using parts_induction with
  | hterminal v hv =>
    rw [tree_of_terminal hv]
    exact .leaf v
  | hcontainer v hv ih =>
    rw [tree_of_container hv]
    refine .branch (by simpa using parts_ne_nil hv) ?_
    intro child hchild
    obtain ⟨part, hpart, rfl⟩ := List.mem_map.1 hchild
    exact ih part hpart

theorem child?_eq_some_iff {v x : Json} (h : v.WellFormed) {segment : String} :
    v.child? segment = some x ↔ (segment, x) ∈ v.parts := by
  cases v with
  | null | bool _ | number _ | string _ => simp [child?, parts]
  | object members => exact Assoc.find?_eq_some_iff (wellFormed_object_iff.1 h).1
  | array items => simp only [child?, Option.bind_eq_some_iff, Path.index?_eq_some_iff, mem_parts_array_iff]

theorem wellFormed_of_terminal {v : Json} (hv : v.isTerminal = true) : v.WellFormed := by
  cases v with
  | null | bool _ | number _ | string _ => trivial
  | array items =>
    obtain rfl : items = [] := by simpa [isTerminal] using hv
    exact wellFormed_array_iff.2 (by simp)
  | object members =>
    obtain rfl : members = [] := by simpa [isTerminal] using hv
    exact wellFormed_object_iff.2 (by simp)

/-- Nothing stands below a terminal. -/
theorem follow?_of_terminal {v x : Json} (hv : v.isTerminal = true) {path : List String}
    (h : v.follow? path = some x) : path = [] ∧ x = v := by
  cases path with
  | nil => exact ⟨rfl, (Option.some.inj h).symm⟩
  | cons segment rest =>
    obtain ⟨part, hpart, -⟩ := Option.bind_eq_some_iff.1 h
    rw [child?_eq_some_iff (wellFormed_of_terminal hv), parts_of_terminal hv] at hpart
    cases hpart

/-- The leaves are the terminals at the ends of paths. -/
theorem mem_leaves_iff {v x : Json} (h : v.WellFormed) {path : List String} :
    (path, x) ∈ v.tree.leaves ↔ v.follow? path = some x ∧ x.isTerminal = true := by
  induction v using parts_induction generalizing path with
  | hterminal v hv =>
    rw [tree_of_terminal hv, PathTree.leaves, List.mem_singleton, Prod.mk.injEq]
    constructor
    · rintro ⟨rfl, rfl⟩
      exact ⟨rfl, hv⟩
    · rintro ⟨hfollow, -⟩
      exact follow?_of_terminal hv hfollow
  | hcontainer v hv ih =>
    rw [mem_leaves_of_container hv]
    cases path with
    | nil =>
      constructor
      · rintro ⟨part, -, below, -, heq⟩
        cases heq
      · rintro ⟨hfollow, hterminal⟩
        obtain rfl : v = x := Option.some.inj hfollow
        rw [hv] at hterminal
        cases hterminal
    | cons segment rest =>
      rw [follow?_cons, Option.bind_eq_some_iff]
      constructor
      · rintro ⟨⟨first, part⟩, hpart, ⟨below, value⟩, hbelow, heq⟩
        obtain ⟨⟨rfl, rfl⟩, rfl⟩ : (segment = first ∧ rest = below) ∧ x = value := by simpa using heq
        obtain ⟨hfollow, hterminal⟩ := (ih _ hpart (h.part hpart)).1 hbelow
        exact ⟨⟨part, (child?_eq_some_iff h).2 hpart, hfollow⟩, hterminal⟩
      · rintro ⟨⟨part, hpart, hfollow⟩, hterminal⟩
        rw [child?_eq_some_iff h] at hpart
        exact ⟨(segment, part), hpart, (rest, x), (ih _ hpart (h.part hpart)).2 ⟨hfollow, hterminal⟩, rfl⟩

/-- The children of a well-formed value's tree, as they are added from nothing. -/
theorem WellFormed.grown_tree {v : Json} (h : v.WellFormed) (hv : v.isTerminal = false) :
    PathTree.Grown (v.parts.map fun part => (part.1, part.2.tree)) := by
  have hdistinct := h.distinct_tree
  rw [tree_of_container hv] at hdistinct
  refine ⟨hdistinct, ?_⟩
  intro child hchild
  obtain ⟨part, -, rfl⟩ := List.mem_map.1 hchild
  exact part.2.fruitful_tree

end FieldRules.Json
