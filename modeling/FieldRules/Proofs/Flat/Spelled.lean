import FieldRules.Proofs.Flat.Deflate
import FieldRules.Proofs.Flat.ValueTree

/-!
Values whose paths say where they lead: each is cut into the very segments that it was made of. The flat view
of such a value has an entry for every terminal, and its keys make the tree of the value again, whatever values
stand under them.
-/

namespace FieldRules.Json

/-- The path of every terminal below the root is not empty and is cut into the segments that lead to it. -/
def Spelled (separator : String) (v : Json) : Prop :=
  ∀ leaf ∈ v.tree.leaves, leaf.1 ≠ [] → Path.descend separator "" leaf.1 ≠ "" ∧
    Path.segments separator (Path.descend separator "" leaf.1) = leaf.1

section Spelled

variable {separator : String} {v : Json}

theorem ne_nil_of_mem_leaves (hcontainer : v.isTerminal = false) {leaf : List String × Json}
    (hleaf : leaf ∈ v.tree.leaves) : leaf.1 ≠ [] := by
  rw [tree_of_container hcontainer, PathTree.leaves] at hleaf
  exact PathTree.ne_nil_of_mem_childLeaves hleaf

theorem leaves_of_terminal (hterminal : v.isTerminal = true) : v.tree.leaves = [([], v)] := by
  rw [tree_of_terminal hterminal, PathTree.leaves]

/-- The entries of the flat view are the leaves, none of which hides another. -/
theorem Spelled.entries_flatten (h : v.Spelled separator) (hv : v.WellFormed) :
    (v.flatten separator).entries =
      v.tree.leaves.map fun leaf => (Path.descend separator "" leaf.1, leaf.2) := by
  rw [flatten, flattenBelow, OrderedMap.entries_ofList, terminals_eq]
  rw [terminals_eq, Assoc.keys, List.map_map]
  cases hterminal : v.isTerminal with
  | true => simp [leaves_of_terminal hterminal]
  | false =>
    apply List.Nodup.of_map (Path.segments separator)
    have hfound : (v.tree.leaves.map (Prod.fst ∘ fun leaf => (Path.descend separator "" leaf.1, leaf.2))).map
        (Path.segments separator) = v.tree.leaves.map Prod.fst := by
      rw [List.map_map]
      exact List.map_congr_left fun leaf hleaf => (h leaf hleaf (ne_nil_of_mem_leaves hterminal hleaf)).2
    rw [hfound, tree_of_container hterminal, PathTree.leaves]
    exact PathTree.nodup_childLeaves (hv.grown_tree hterminal)

/-- A view whose keys are the paths of a container's terminals makes the tree of the container, with the values
of the view at its leaves. -/
theorem Spelled.ofView_eq_ok (h : v.Spelled separator) (hv : v.WellFormed) (hcontainer : v.isTerminal = false)
    {view : FlatView} {f : List String → Json → Json}
    (hentries : view.entries =
      v.tree.leaves.map fun leaf => (Path.descend separator "" leaf.1, f leaf.1 leaf.2)) :
    "" ∉ view.keys ∧ PathTree.ofView separator view =
      .ok (PathTree.mapChildren f (v.parts.map fun part => (part.1, part.2.tree))) := by
  have hspelled {leaf : List String × Json} (hleaf : leaf ∈ v.tree.leaves) :=
    h leaf hleaf (ne_nil_of_mem_leaves hcontainer hleaf)
  constructor
  · rw [OrderedMap.keys, hentries, Assoc.keys, List.map_map, List.mem_map]
    rintro ⟨leaf, hleaf, heq⟩
    exact (hspelled hleaf).1 heq
  · apply PathTree.ofView_eq_ok f (hv.grown_tree hcontainer)
    have hleaves : v.tree.leaves = PathTree.childLeaves (v.parts.map fun part => (part.1, part.2.tree)) := by
      rw [tree_of_container hcontainer, PathTree.leaves]
    rw [hentries, ← hleaves, List.map_map]
    exact List.map_congr_left fun leaf hleaf => Prod.ext (hspelled hleaf).2 rfl

/-- The flat view of a container makes the tree of the container. -/
theorem Spelled.ofView_flatten (h : v.Spelled separator) (hv : v.WellFormed) (hcontainer : v.isTerminal = false) :
    "" ∉ (v.flatten separator).keys ∧ PathTree.ofView separator (v.flatten separator) =
      .ok (v.parts.map fun part => (part.1, part.2.tree)) := by
  have htree := h.ofView_eq_ok hv hcontainer (f := fun _ value => value) (h.entries_flatten hv)
  rwa [PathTree.mapChildren_value] at htree

end Spelled

end FieldRules.Json
