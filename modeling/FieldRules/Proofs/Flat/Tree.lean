import FieldRules.Flat.Deflate
import FieldRules.Proofs.Flat.Content
import FieldRules.Proofs.Outcome

/-!
The tree of segments that a view is sorted into. Its content is that of the view, and it can be made
exactly if no path of the view goes on to another one, whatever the order of the entries.
-/

namespace FieldRules.PathTree

/-- Induction on a tree through the children of its branches. -/
theorem branches_induction {motive : PathTree → Prop} (hleaf : ∀ value, motive (.leaf value))
    (hbranch : ∀ children, (∀ child ∈ children, motive child.2) → motive (.branch children))
    (t : PathTree) : motive t := by
  match t with
  | .leaf value => exact hleaf value
  | .branch children =>
    refine hbranch children fun child hchild => ?_
    have hsmaller := List.sizeOf_lt_of_mem hchild
    have hsubtree : sizeOf child.2 < sizeOf child := by
      rw [Prod.mk.sizeOf_spec child.1 child.2]
      omega
    exact branches_induction hleaf hbranch child.2
termination_by sizeOf t
decreasing_by simp_wf; omega

/-- The subtree at the end of a path of segments. -/
def subtree? (t : PathTree) : List String → Option PathTree
  | [] => some t
  | segment :: rest =>
    match t with
    | .leaf _ => none
    | .branch children => (Assoc.find? children segment).bind (subtree? · rest)

/-- The values at the leaves under the segments that lead to them. -/
def content (t : PathTree) : Content := fun path value => t.subtree? path = some (.leaf value)

@[simp] theorem content_leaf {value x : Json} {path : List String} :
    (leaf value).content path x ↔ path = [] ∧ x = value := by
  cases path <;> simp [content, subtree?, eq_comm]

@[simp] theorem not_content_branch_nil (children : List (String × PathTree)) (x : Json) :
    ¬ (branch children).content [] x := by
  simp [content, subtree?]

theorem content_branch_cons {children : List (String × PathTree)} {segment : String}
    {rest : List String} {x : Json} :
    (branch children).content (segment :: rest) x ↔
      ∃ child, Assoc.find? children segment = some child ∧ child.content rest x := by
  simp [content, subtree?, Option.bind_eq_some_iff]

@[simp] theorem not_content_branch_empty (path : List String) (x : Json) :
    ¬ (branch []).content path x := by
  cases path <;> simp [content_branch_cons, Assoc.find?]

/-- No branch has two children under one segment. -/
inductive Distinct : PathTree → Prop
  | leaf (value : Json) : Distinct (.leaf value)
  | branch {children : List (String × PathTree)} (hnodup : (Assoc.keys children).Nodup)
      (hchildren : ∀ child ∈ children, Distinct child.2) : Distinct (.branch children)

/-- Every branch leads to a leaf. -/
inductive Fruitful : PathTree → Prop
  | leaf (value : Json) : Fruitful (.leaf value)
  | branch {children : List (String × PathTree)} (hne : children ≠ [])
      (hchildren : ∀ child ∈ children, Fruitful child.2) : Fruitful (.branch children)

/-- The children of a root as they are while a tree is made: only the root may be without any. -/
structure Grown (children : List (String × PathTree)) : Prop where
  distinct : (branch children).Distinct
  fruitful : ∀ child ∈ children, child.2.Fruitful

theorem Distinct.nodup_keys {children : List (String × PathTree)} (h : (PathTree.branch children).Distinct) :
    (Assoc.keys children).Nodup := by
  cases h with
  | branch hnodup hchildren => exact hnodup

theorem Distinct.child {children : List (String × PathTree)} (h : (PathTree.branch children).Distinct)
    {child : String × PathTree} (hchild : child ∈ children) : child.2.Distinct := by
  cases h with
  | branch hnodup hchildren => exact hchildren child hchild

theorem Fruitful.exists_content {t : PathTree} (h : t.Fruitful) (hdistinct : t.Distinct) :
    ∃ path x, t.content path x := by
  induction h with
  | leaf value => exact ⟨[], value, by simp⟩
  | @branch children hne hchildren ih =>
    obtain ⟨child, rest, rfl⟩ := List.exists_cons_of_ne_nil hne
    obtain ⟨path, x, hx⟩ := ih child (by simp) (hdistinct.child (by simp))
    exact ⟨child.1 :: path, x, content_branch_cons.2 ⟨child.2, by simp [Assoc.find?], hx⟩⟩

theorem Grown.nil : Grown [] :=
  ⟨.branch (by simp) (by simp), by simp⟩

/-- Putting a subtree under a segment keeps what a tree in the making has to be. -/
theorem Grown.put {children : List (String × PathTree)} (h : Grown children) (segment : String)
    {t : PathTree} (hdistinct : t.Distinct) (hfruitful : t.Fruitful) :
    Grown (Assoc.put children segment t) := by
  have hmem (child : String × PathTree) : child ∈ Assoc.put children segment t ↔
      child = (segment, t) ∨ (child.1 ≠ segment ∧ child ∈ children) :=
    Assoc.mem_put_iff h.distinct.nodup_keys
  refine ⟨.branch (Assoc.nodup_keys_put h.distinct.nodup_keys _ _) ?_, ?_⟩
  · intro child hchild
    rcases (hmem child).1 hchild with rfl | ⟨-, hchild⟩
    · exact hdistinct
    · exact h.distinct.child hchild
  · intro child hchild
    rcases (hmem child).1 hchild with rfl | ⟨-, hchild⟩
    · exact hfruitful
    · exact h.fruitful child hchild

/-- The children among which a path goes on below a segment: none yet below a new one, and there is
no going on below a leaf. -/
def room? : Option PathTree → Option (List (String × PathTree))
  | none => some []
  | some (.branch children) => some children
  | some (.leaf _) => none

theorem add_single (separator path : String) (children : List (String × PathTree)) (last : String)
    (value : Json) :
    add separator path children [last] value =
      match Assoc.find? children last with
      | none => .ok (Assoc.put children last (.leaf value))
      | some _ => .error (.pathConflict (Path.join path last separator)) := by
  cases hfind : Assoc.find? children last with
  | none => simp [add, hfind]
  | some child => simp [add, hfind]

/-- A longer path goes on below its first segment if there is room. -/
theorem add_cons {separator path : String} {children : List (String × PathTree)} {head : String}
    {rest : List String} (hrest : rest ≠ []) (value : Json) :
    add separator path children (head :: rest) value =
      match room? (Assoc.find? children head) with
      | none => .error (.pathConflict (Path.join path head separator))
      | some below => (add separator (Path.join path head separator) below rest value).map fun grown =>
          Assoc.put children head (.branch grown) := by
  have hmap (x : Except Error (List (String × PathTree))) :
      (x >>= fun grown => .ok (Assoc.put children head (.branch grown))) =
        x.map fun grown => Assoc.put children head (.branch grown) := by
    cases x <;> rfl
  rw [add.eq_3 _ _ _ _ _ _ hrest]
  cases Assoc.find? children head with
  | none => exact hmap _
  | some child =>
    cases child with
    | leaf value => rfl
    | branch below => exact hmap _

section Room

variable {children below : List (String × PathTree)} {head : String}

theorem content_of_room (hroom : room? (Assoc.find? children head) = some below) {rest : List String}
    {x : Json} : (branch children).content (head :: rest) x ↔ (branch below).content rest x := by
  rw [content_branch_cons]
  cases hfind : Assoc.find? children head with
  | none =>
    obtain rfl : below = [] := by simpa [hfind, room?, eq_comm] using hroom
    simp
  | some child =>
    cases child with
    | leaf value => simp [hfind, room?] at hroom
    | branch grandchildren =>
      obtain rfl : grandchildren = below := by simpa [hfind, room?] using hroom
      simp

theorem Grown.room (h : Grown children) (hroom : room? (Assoc.find? children head) = some below) :
    Grown below := by
  cases hfind : Assoc.find? children head with
  | none =>
    obtain rfl : below = [] := by simpa [hfind, room?, eq_comm] using hroom
    exact .nil
  | some child =>
    have hmem := Assoc.mem_of_find?_eq_some hfind
    cases child with
    | leaf value => simp [hfind, room?] at hroom
    | branch grandchildren =>
      obtain rfl : grandchildren = below := by simpa [hfind, room?] using hroom
      have hfruitful := h.fruitful _ hmem
      cases hfruitful with
      | branch hne hchildren => exact ⟨h.distinct.child hmem, hchildren⟩

/-- There is no room below a segment exactly if a leaf stands there. -/
theorem room?_eq_none_iff :
    room? (Assoc.find? children head) = none ↔ ∃ x, (branch children).content [head] x := by
  cases hfind : Assoc.find? children head with
  | none => simp [room?, content_branch_cons, hfind]
  | some child =>
    cases child with
    | leaf value => simp [room?, content_branch_cons, hfind]
    | branch grandchildren => simp [room?, content_branch_cons, hfind]

end Room

/-- Of two paths one goes on to the other, or they are the same. -/
def Conflicts (path other : List String) : Prop := path <+: other ∨ other <+: path

theorem conflicts_cons {head : String} {path other : List String} :
    Conflicts (head :: path) (head :: other) ↔ Conflicts path other := by
  simp [Conflicts, List.cons_prefix_cons]

theorem not_conflicts_cons_of_ne {head head' : String} (hne : head ≠ head') (path other : List String) :
    ¬ Conflicts (head :: path) (head' :: other) := by
  simp [Conflicts, List.cons_prefix_cons, hne, hne.symm]

theorem Conflicts.symm {path other : List String} (h : Conflicts path other) : Conflicts other path :=
  h.elim .inr .inl

/-- A value finds its place exactly if its path conflicts with none of those in the tree. -/
theorem exists_add_eq_ok_iff {children : List (String × PathTree)} (hgrown : Grown children)
    {segments : List String} (hne : segments ≠ []) (separator path : String) (value : Json) :
    (∃ grown, add separator path children segments value = .ok grown) ↔
      ∀ other x, (branch children).content other x → ¬ Conflicts other segments := by
  induction segments generalizing path children with
  | nil => exact absurd rfl hne
  | cons head rest ih =>
    by_cases hrest : rest = []
    · subst hrest
      rw [add_single]
      cases hfind : Assoc.find? children head with
      | none =>
        simp only [Except.ok.injEq, exists_eq', true_iff]
        intro other x hx hconflict
        cases other with
        | nil => exact not_content_branch_nil _ _ hx
        | cons segment other =>
          obtain ⟨child, hchild, -⟩ := content_branch_cons.1 hx
          by_cases heq : segment = head
          · subst heq
            simp [hfind] at hchild
          · exact not_conflicts_cons_of_ne heq _ _ hconflict
      | some child =>
        simp only [reduceCtorEq, exists_const, false_iff, not_forall, not_not]
        have hmem := Assoc.mem_of_find?_eq_some hfind
        obtain ⟨other, x, hx⟩ := (hgrown.fruitful _ hmem).exists_content (hgrown.distinct.child hmem)
        exact ⟨head :: other, x, content_branch_cons.2 ⟨child, hfind, hx⟩, .inr (by simp)⟩
    · rw [add_cons hrest]
      cases hroom : room? (Assoc.find? children head) with
      | none =>
        obtain ⟨x, hx⟩ := room?_eq_none_iff.1 hroom
        simp only [reduceCtorEq, exists_const, false_iff, not_forall, not_not]
        exact ⟨[head], x, hx, .inl (by simp)⟩
      | some below =>
        have hbelow : (∃ grown, add separator (Path.join path head separator) below rest value = .ok grown) ↔
            ∀ other x, (branch below).content other x → ¬ Conflicts other rest :=
          ih (hgrown.room hroom) hrest _
        simp only [map_eq_ok_iff]
        constructor
        · rintro ⟨-, grown, hadd, -⟩ other x hx hconflict
          cases other with
          | nil => exact not_content_branch_nil _ _ hx
          | cons segment other =>
            by_cases heq : segment = head
            · subst heq
              exact hbelow.1 ⟨grown, hadd⟩ other x ((content_of_room hroom).1 hx)
                (conflicts_cons.1 hconflict)
            · exact not_conflicts_cons_of_ne heq _ _ hconflict
        · intro hfree
          obtain ⟨grown, hadd⟩ := hbelow.2 fun other x hx hconflict =>
            hfree (head :: other) x ((content_of_room hroom).2 hx) (conflicts_cons.2 hconflict)
          exact ⟨_, grown, hadd, rfl⟩

/-- A value that found its place is what the tree gained. -/
theorem add_spec {separator path : String} {children grown : List (String × PathTree)}
    {segments : List String} {value : Json} (hgrown : Grown children) (hne : segments ≠ [])
    (h : add separator path children segments value = .ok grown) :
    Grown grown ∧ grown ≠ [] ∧ ∀ other x, (branch grown).content other x ↔
      (other = segments ∧ x = value) ∨ (branch children).content other x := by
  induction segments generalizing path children grown with
  | nil => exact absurd rfl hne
  | cons head rest ih =>
    have hput (t : PathTree) : Assoc.put children head t ≠ [] := by
      cases children with
      | nil => simp [Assoc.put]
      | cons child children =>
        rw [Assoc.put]
        split <;> simp
    by_cases hrest : rest = []
    · subst hrest
      rw [add_single] at h
      cases hfind : Assoc.find? children head with
      | some child => simp [hfind] at h
      | none =>
        obtain rfl : Assoc.put children head (.leaf value) = grown := by simpa [hfind] using h
        refine ⟨hgrown.put head (.leaf value) (.leaf value), hput _, ?_⟩
        intro other x
        cases other with
        | nil => simp
        | cons segment other =>
          by_cases heq : head = segment
          · subst heq
            simp [content_branch_cons, Assoc.find?_put, hfind]
          · simp [content_branch_cons, Assoc.find?_put, heq, Ne.symm heq]
    · rw [add_cons hrest] at h
      cases hroom : room? (Assoc.find? children head) with
      | none => simp [hroom] at h
      | some below =>
        rw [hroom] at h
        obtain ⟨inner, hadd, rfl⟩ := map_eq_ok_iff.1 h
        obtain ⟨hinner, hinnerNe, hcontent⟩ := ih (hgrown.room hroom) hrest hadd
        refine ⟨hgrown.put head hinner.distinct (.branch hinnerNe hinner.fruitful), hput _, ?_⟩
        intro other x
        cases other with
        | nil => simp
        | cons segment other =>
          by_cases heq : head = segment
          · subst heq
            rw [content_of_room hroom]
            simp [content_branch_cons, Assoc.find?_put, hcontent]
          · simp [content_branch_cons, Assoc.find?_put, heq, Ne.symm heq]

/-- Adds values under their paths one after the other. -/
def addAll (separator path : String) (children : List (String × PathTree))
    (entries : List (List String × Json)) : Except Error (List (String × PathTree)) :=
  entries.foldlM (fun children entry => add separator path children entry.1 entry.2) children

theorem addAll_cons (separator path : String) (children : List (String × PathTree))
    (entry : List String × Json) (entries : List (List String × Json)) :
    addAll separator path children (entry :: entries) =
      add separator path children entry.1 entry.2 >>= fun grown => addAll separator path grown entries := by
  simp [addAll]

theorem ofView_eq_addAll (separator : String) (view : FlatView) :
    ofView separator view =
      addAll separator "" [] (view.entries.map fun entry => (Path.segments separator entry.1, entry.2)) := by
  simp [ofView, addAll, List.foldlM_map]

section AddAll

variable {separator path : String} {children grown : List (String × PathTree)}
  {entries : List (List String × Json)}

theorem addAll_spec (hgrown : Grown children) (hne : ∀ entry ∈ entries, entry.1 ≠ [])
    (h : addAll separator path children entries = .ok grown) :
    Grown grown ∧ ∀ other x, (branch grown).content other x ↔
      (other, x) ∈ entries ∨ (branch children).content other x := by
  induction entries generalizing children with
  | nil =>
    cases h
    exact ⟨hgrown, by simp⟩
  | cons entry entries ih =>
    obtain ⟨hentry, hentries⟩ := List.forall_mem_cons.1 hne
    rw [addAll_cons] at h
    obtain ⟨middle, hadd, h⟩ := bind_eq_ok_iff.1 h
    obtain ⟨hmiddle, -, hcontent⟩ := add_spec hgrown hentry hadd
    obtain ⟨hfinal, hall⟩ := ih hmiddle hentries h
    refine ⟨hfinal, fun other x => ?_⟩
    rw [hall, hcontent, List.mem_cons, Prod.ext_iff, or_assoc]
    exact or_left_comm

/-- Values find their places exactly if their paths conflict neither with each other nor with those
in the tree. -/
theorem exists_addAll_eq_ok_iff (hgrown : Grown children) (hne : ∀ entry ∈ entries, entry.1 ≠ []) :
    (∃ grown, addAll separator path children entries = .ok grown) ↔
      entries.Pairwise (fun a b => ¬ Conflicts a.1 b.1) ∧
      ∀ entry ∈ entries, ∀ other x, (branch children).content other x → ¬ Conflicts other entry.1 := by
  induction entries generalizing children with
  | nil => simp [addAll, pure, Except.pure]
  | cons entry entries ih =>
    obtain ⟨hentry, hentries⟩ := List.forall_mem_cons.1 hne
    have hfirst := exists_add_eq_ok_iff hgrown hentry separator path entry.2
    simp only [addAll_cons, bind_eq_ok_iff, List.pairwise_cons, List.forall_mem_cons]
    constructor
    · rintro ⟨final, middle, hadd, hrest⟩
      obtain ⟨hmiddle, -, hcontent⟩ := add_spec hgrown hentry hadd
      obtain ⟨hpairwise, hfree⟩ := (ih hmiddle hentries).1 ⟨final, hrest⟩
      refine ⟨⟨?_, hpairwise⟩, hfirst.1 ⟨middle, hadd⟩, ?_⟩
      · intro later hlater
        exact hfree later hlater _ entry.2 ((hcontent _ _).2 (.inl ⟨rfl, rfl⟩))
      · intro later hlater other x hx
        exact hfree later hlater other x ((hcontent _ _).2 (.inr hx))
    · rintro ⟨⟨hlaters, hpairwise⟩, hfreeFirst, hfree⟩
      obtain ⟨middle, hadd⟩ := hfirst.2 hfreeFirst
      obtain ⟨hmiddle, -, hcontent⟩ := add_spec hgrown hentry hadd
      obtain ⟨final, hrest⟩ := (ih hmiddle hentries).2 ⟨hpairwise, by
        intro later hlater other x hx
        rcases (hcontent _ _).1 hx with ⟨rfl, -⟩ | hx
        · exact hlaters later hlater
        · exact hfree later hlater other x hx⟩
      exact ⟨final, middle, hadd, hrest⟩

end AddAll

end FieldRules.PathTree
