import FieldRules.Proofs.Flat.Tree

/-!
The leaves of a tree in order. A tree comes back, with its children in their places, when its leaves
are added one after the other.
-/

namespace FieldRules.PathTree

/-- Puts a segment in front of every path. -/
def under (segment : String) (entries : List (List String × Json)) : List (List String × Json) :=
  entries.map fun entry => (segment :: entry.1, entry.2)

mutual

/-- The values at the leaves in order, each under the segments that lead to it. -/
def leaves : PathTree → List (List String × Json)
  | .leaf value => [([], value)]
  | .branch children => childLeaves children

def childLeaves : List (String × PathTree) → List (List String × Json)
  | [] => []
  | (segment, child) :: rest => under segment (leaves child) ++ childLeaves rest

end

variable {separator path segment : String} {before below children : List (String × PathTree)}
  {entries : List (List String × Json)}

theorem childLeaves_eq_flatMap :
    childLeaves children = children.flatMap fun child => under child.1 child.2.leaves := by
  induction children with
  | nil => rfl
  | cons child children ih => rw [childLeaves, ih, List.flatMap_cons]

/-- Below a root no value stands at the root itself. -/
theorem ne_nil_of_mem_childLeaves {entry : List String × Json} (hentry : entry ∈ childLeaves children) :
    entry.1 ≠ [] := by
  rw [childLeaves_eq_flatMap, List.mem_flatMap] at hentry
  obtain ⟨child, -, hentry⟩ := hentry
  obtain ⟨leaf, -, rfl⟩ := List.mem_map.1 hentry
  simp

theorem Fruitful.leaves_ne_nil {t : PathTree} (h : t.Fruitful) : t.leaves ≠ [] := by
  induction h with
  | leaf value => simp [leaves]
  | @branch children hne hchildren ih =>
    obtain ⟨child, rest, rfl⟩ := List.exists_cons_of_ne_nil hne
    simpa [leaves, childLeaves, under] using fun h => absurd h (ih child (by simp))

theorem addAll_append (others : List (List String × Json)) :
    addAll separator path children (entries ++ others) =
      addAll separator path children entries >>= fun grown => addAll separator path grown others := by
  simp [addAll]

/-- Paths that go on below the last child change that child alone. -/
theorem addAll_under_of_branch (hsegment : segment ∉ Assoc.keys before)
    (hne : ∀ entry ∈ entries, entry.1 ≠ []) :
    addAll separator path (before ++ [(segment, branch below)]) (under segment entries) =
      (addAll separator (Path.join path segment separator) below entries).map fun grown =>
        before ++ [(segment, branch grown)] := by
  induction entries generalizing below with
  | nil => rfl
  | cons entry entries ih =>
    obtain ⟨hentry, hentries⟩ := List.forall_mem_cons.1 hne
    have hfind : Assoc.find? (before ++ [(segment, branch below)]) segment = some (branch below) := by
      rw [Assoc.find?_append_of_not_mem_keys hsegment]
      simp [Assoc.find?]
    rw [under, List.map_cons, addAll_cons, addAll_cons, add_cons hentry, hfind]
    cases hadd : add separator (Path.join path segment separator) below entry.1 entry.2 with
    | error e => simp [room?, hadd, Except.map, bind, Except.bind]
    | ok grown =>
      simp only [room?, hadd, Except.map, bind, Except.bind, Assoc.put_append_of_not_mem_keys hsegment]
      exact ih hentries

/-- Paths that go on below a new segment make a new child at the end. -/
theorem addAll_under (hsegment : segment ∉ Assoc.keys before) (hne : ∀ entry ∈ entries, entry.1 ≠ [])
    (hentries : entries ≠ []) :
    addAll separator path before (under segment entries) =
      (addAll separator (Path.join path segment separator) [] entries).map fun grown =>
        before ++ [(segment, branch grown)] := by
  obtain ⟨entry, rest, rfl⟩ := List.exists_cons_of_ne_nil hentries
  obtain ⟨hentry, hrest⟩ := List.forall_mem_cons.1 hne
  rw [under, List.map_cons, addAll_cons, addAll_cons, add_cons hentry,
    Assoc.find?_eq_none_iff.2 hsegment]
  cases hadd : add separator (Path.join path segment separator) [] entry.1 entry.2 with
  | error e => simp [room?, hadd, Except.map, bind, Except.bind]
  | ok grown =>
    simp only [room?, hadd, Except.map, bind, Except.bind, Assoc.put_of_not_mem_keys hsegment]
    exact addAll_under_of_branch hsegment hrest

private theorem addAll_childLeaves_of_forall
    (hchildren : ∀ child ∈ children, ∀ {path before}, child.1 ∉ Assoc.keys before →
      addAll separator path before (under child.1 child.2.leaves) = .ok (before ++ [child]))
    (hnodup : (Assoc.keys (before ++ children)).Nodup) :
    addAll separator path before (childLeaves children) = .ok (before ++ children) := by
  induction children generalizing before with
  | nil => simp [childLeaves, addAll, pure, Except.pure]
  | cons child children ih =>
    obtain ⟨hchild, hrest⟩ := List.forall_mem_cons.1 hchildren
    have hfresh : child.1 ∉ Assoc.keys before := by
      intro hmem
      rw [Assoc.keys_append, List.nodup_append] at hnodup
      exact hnodup.2.2 _ hmem _ (by simp) rfl
    rw [childLeaves, addAll_append, hchild hfresh]
    have hnodup' : (Assoc.keys ((before ++ [child]) ++ children)).Nodup := by simpa using hnodup
    simpa [bind, Except.bind] using ih hrest hnodup'

/-- The leaves of a tree make it again as a new child. -/
theorem addAll_leaves {t : PathTree} (hdistinct : t.Distinct) (hfruitful : t.Fruitful)
    (hsegment : segment ∉ Assoc.keys before) :
    addAll separator path before (under segment t.leaves) = .ok (before ++ [(segment, t)]) := by
  induction t using branches_induction generalizing segment path before with
  | hleaf value =>
    rw [leaves, under, List.map_singleton, addAll_cons, add_single, Assoc.find?_eq_none_iff.2 hsegment,
      Assoc.put_of_not_mem_keys hsegment]
    rfl
  | hbranch children ih =>
    cases hfruitful with
    | branch hne hchildren =>
      have hbelow : addAll separator (Path.join path segment separator) [] (childLeaves children) =
          .ok children := by
        refine addAll_childLeaves_of_forall ?_ hdistinct.nodup_keys
        intro child hchild path before hfresh
        exact ih child hchild (hdistinct.child hchild) (hchildren child hchild) hfresh
      rw [leaves, addAll_under hsegment (fun entry => ne_nil_of_mem_childLeaves) ?_, hbelow]
      · rfl
      · exact (Fruitful.branch hne hchildren).leaves_ne_nil

/-- A tree in the making is made again from its leaves. -/
theorem addAll_childLeaves (hgrown : Grown children) :
    addAll separator path [] (childLeaves children) = .ok children := by
  have hnodup : (Assoc.keys ([] ++ children)).Nodup := hgrown.distinct.nodup_keys
  refine addAll_childLeaves_of_forall ?_ hnodup
  intro child hchild path before hfresh
  exact addAll_leaves (hgrown.distinct.child hchild) (hgrown.fruitful child hchild) hfresh

/-- No path leads to two leaves. -/
theorem nodup_childLeaves (hgrown : Grown children) : ((childLeaves children).map Prod.fst).Nodup := by
  have hadded : addAll "" "" [] (childLeaves children) = .ok children := addAll_childLeaves hgrown
  have hpairwise := ((exists_addAll_eq_ok_iff .nil fun entry => ne_nil_of_mem_childLeaves).1
    ⟨_, hadded⟩).1
  refine List.pairwise_map.2 (hpairwise.imp ?_)
  intro entry other hfree heq
  exact hfree (.inl (heq ▸ List.prefix_rfl))

mutual

/-- The tree with other values at its leaves, each made of the value there and the path that leads to it. -/
def mapLeaves (f : List String → Json → Json) : PathTree → PathTree
  | .leaf value => .leaf (f [] value)
  | .branch children => .branch (mapChildren f children)

def mapChildren (f : List String → Json → Json) : List (String × PathTree) → List (String × PathTree)
  | [] => []
  | (segment, child) :: rest =>
    (segment, mapLeaves (fun path => f (segment :: path)) child) :: mapChildren f rest

end

section MapLeaves

variable (f : List String → Json → Json)

theorem mapChildren_eq_map :
    mapChildren f children =
      children.map fun child => (child.1, child.2.mapLeaves fun path => f (child.1 :: path)) := by
  induction children with
  | nil => rfl
  | cons child children ih => rw [mapChildren, ih, List.map_cons]

theorem mapLeaves_value (t : PathTree) : (t.mapLeaves fun _ value => value) = t := by
  induction t using branches_induction with
  | hleaf value => rfl
  | hbranch children ih =>
    rw [mapLeaves, mapChildren_eq_map]
    conv_rhs => rw [← List.map_id children]
    exact congrArg branch (List.map_congr_left fun child hchild => Prod.ext rfl (ih child hchild))

theorem mapChildren_value (children : List (String × PathTree)) :
    mapChildren (fun _ value => value) children = children := by
  have h := mapLeaves_value (.branch children)
  simpa only [mapLeaves, branch.injEq] using h

theorem leaves_mapLeaves (t : PathTree) :
    (t.mapLeaves f).leaves = t.leaves.map fun leaf => (leaf.1, f leaf.1 leaf.2) := by
  induction t using branches_induction generalizing f with
  | hleaf value => rfl
  | hbranch children ih =>
    rw [mapLeaves, leaves, leaves, mapChildren_eq_map, childLeaves_eq_flatMap, childLeaves_eq_flatMap,
      List.flatMap_map, List.map_flatMap]
    refine List.flatMap_congr fun child hchild => ?_
    simp [ih child hchild, under, Function.comp_def]

theorem Distinct.mapLeaves {t : PathTree} (h : t.Distinct) : (t.mapLeaves f).Distinct := by
  induction h generalizing f with
  | leaf value => exact .leaf _
  | @branch children hnodup hchildren ih =>
    rw [PathTree.mapLeaves, mapChildren_eq_map]
    refine .branch ?_ ?_
    · simpa [Assoc.keys, Function.comp_def] using hnodup
    · intro child hchild
      obtain ⟨old, hold, rfl⟩ := List.mem_map.1 hchild
      exact ih old hold _

theorem Fruitful.mapLeaves {t : PathTree} (h : t.Fruitful) : (t.mapLeaves f).Fruitful := by
  induction h generalizing f with
  | leaf value => exact .leaf _
  | @branch children hne hchildren ih =>
    rw [PathTree.mapLeaves, mapChildren_eq_map]
    refine .branch (by simpa using hne) ?_
    intro child hchild
    obtain ⟨old, hold, rfl⟩ := List.mem_map.1 hchild
    exact ih old hold _

theorem Grown.mapChildren (h : Grown children) : Grown (mapChildren f children) := by
  refine ⟨h.distinct.mapLeaves f, ?_⟩
  rw [mapChildren_eq_map]
  intro child hchild
  obtain ⟨old, hold, rfl⟩ := List.mem_map.1 hchild
  exact (h.fruitful old hold).mapLeaves _

/-- A tree is made again from a view whose keys are the paths of its leaves, with the values there. -/
theorem ofView_eq_ok (hgrown : Grown children) {view : FlatView}
    (hentries : view.entries.map (fun entry => (Path.segments separator entry.1, entry.2)) =
      (childLeaves children).map fun leaf => (leaf.1, f leaf.1 leaf.2)) :
    ofView separator view = .ok (PathTree.mapChildren f children) := by
  have hleaves : (childLeaves children).map (fun leaf => (leaf.1, f leaf.1 leaf.2)) =
      childLeaves (PathTree.mapChildren f children) := by
    have h := leaves_mapLeaves f (.branch children)
    simpa only [PathTree.mapLeaves, leaves] using h.symm
  rw [ofView_eq_addAll, hentries, hleaves, addAll_childLeaves (hgrown.mapChildren f)]

end MapLeaves

end FieldRules.PathTree
