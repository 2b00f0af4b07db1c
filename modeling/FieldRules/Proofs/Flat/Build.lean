import FieldRules.Proofs.Flat.Tree
import Mathlib.Data.List.ProdSigma

/-!
The value that a finished tree stands for: it exists exactly if the tree's content is unambiguous, and
it carries that content.
-/

namespace FieldRules.PathTree

section Fill

/-- Items after values have been written at positions. -/
private def written (items : List Json) (placed : List (Nat × Json)) : List Json :=
  placed.foldl (fun items entry => items.set entry.1 entry.2) items

private theorem toList_foldl_setIfInBounds (items : Array Json) (placed : List (Nat × Json)) :
    (placed.foldl (fun items entry => items.setIfInBounds entry.1 entry.2) items).toList =
      written items.toList placed := by
  induction placed generalizing items with
  | nil => rfl
  | cons entry placed ih =>
    rw [List.foldl_cons, ih, Array.toList_setIfInBounds]
    rfl

private theorem length_written (items : List Json) (placed : List (Nat × Json)) :
    (written items placed).length = items.length := by
  induction placed generalizing items with
  | nil => rfl
  | cons entry placed ih => exact (ih _).trans (List.length_set ..)

private theorem getElem?_written_of_not_mem {items : List Json} {placed : List (Nat × Json)}
    {position : Nat} (h : position ∉ placed.map Prod.fst) :
    (written items placed)[position]? = items[position]? := by
  induction placed generalizing items with
  | nil => rfl
  | cons entry placed ih =>
    obtain ⟨hne, hrest⟩ := List.ne_and_not_mem_of_not_mem_cons h
    exact (ih hrest).trans (List.getElem?_set_ne hne.symm)

private theorem getElem?_written_of_mem {items : List Json} {placed : List (Nat × Json)}
    (hnodup : (placed.map Prod.fst).Nodup) {position : Nat} {value : Json}
    (hmem : (position, value) ∈ placed) (hlt : position < items.length) :
    (written items placed)[position]? = some value := by
  induction placed generalizing items with
  | nil => simp at hmem
  | cons entry placed ih =>
    obtain ⟨hfresh, hrest⟩ := List.nodup_cons.1 hnodup
    rcases List.mem_cons.1 hmem with rfl | hmem
    · exact (getElem?_written_of_not_mem hfresh).trans (List.getElem?_set_self hlt)
    · exact ih hrest hmem (by simpa using hlt)

/-- The size that positions ask for, beyond one that is there. -/
private theorem foldl_max_spec (placed : List (Nat × Json)) (size : Nat) :
    let final := placed.foldl (fun size entry => max size (entry.1 + 1)) size
    size ≤ final ∧ (∀ entry ∈ placed, entry.1 + 1 ≤ final) ∧
      (final = size ∨ ∃ entry ∈ placed, final = entry.1 + 1) := by
  induction placed generalizing size with
  | nil => simp
  | cons entry placed ih =>
    obtain ⟨hge, hall, hattained⟩ := ih (max size (entry.1 + 1))
    simp only [List.foldl_cons, List.forall_mem_cons, List.exists_mem_cons_iff]
    refine ⟨by omega, ⟨by omega, hall⟩, ?_⟩
    rcases hattained with h | h
    · omega
    · exact .inr (.inr h)

variable {placed : List (Nat × Json)}

/-- An array that is filled ends at its last position. -/
theorem length_fill (hne : placed ≠ []) :
    ∃ last ∈ placed, (fill placed).length = last.1 + 1 ∧ ∀ entry ∈ placed, entry.1 ≤ last.1 := by
  have hlength : (fill placed).length =
      placed.foldl (fun size entry => max size (entry.1 + 1)) 0 := by
    rw [fill, toList_foldl_setIfInBounds, length_written]
    simp
  obtain ⟨-, hall, hattained⟩ := foldl_max_spec placed 0
  rw [← hlength] at hall hattained
  obtain ⟨first, rest, rfl⟩ := List.exists_cons_of_ne_nil hne
  have hfirst := hall first (by simp)
  obtain ⟨last, hlast, heq⟩ := hattained.resolve_left (by omega)
  refine ⟨last, hlast, heq, fun entry hentry => ?_⟩
  have hle := hall entry hentry
  omega

theorem getElem?_fill_of_mem (hnodup : (placed.map Prod.fst).Nodup) {position : Nat} {value : Json}
    (hmem : (position, value) ∈ placed) : (fill placed)[position]? = some value := by
  rw [fill, toList_foldl_setIfInBounds]
  apply getElem?_written_of_mem hnodup hmem
  rw [Array.toList_replicate, List.length_replicate]
  exact (foldl_max_spec placed 0).2.1 _ hmem

theorem getElem?_fill_of_not_mem {position : Nat} (h : position ∉ placed.map Prod.fst)
    (hlt : position < (fill placed).length) : (fill placed)[position]? = some .null := by
  rw [fill, toList_foldl_setIfInBounds] at hlt ⊢
  rw [length_written] at hlt
  rw [getElem?_written_of_not_mem h]
  rw [Array.toList_replicate] at hlt ⊢
  exact List.getElem?_replicate_of_lt (by simpa using hlt)

theorem mem_fill (hnodup : (placed.map Prod.fst).Nodup) {item : Json}
    (h : item ∈ fill placed) : item = .null ∨ ∃ entry ∈ placed, item = entry.2 := by
  obtain ⟨position, hposition⟩ := List.mem_iff_getElem?.1 h
  by_cases hplaced : position ∈ placed.map Prod.fst
  · obtain ⟨entry, hentry, rfl⟩ := List.mem_map.1 hplaced
    exact .inr ⟨entry, hentry, Option.some.inj (hposition.symm.trans (getElem?_fill_of_mem hnodup hentry))⟩
  · have hlt := (List.getElem?_eq_some_iff.1 hposition).1
    exact .inl (Option.some.inj (hposition.symm.trans (getElem?_fill_of_not_mem hplaced hlt)))

/-- Items that are placed at their own positions stand in their order. -/
theorem fill_zipIdx {items : List Json} (hne : items ≠ []) :
    fill (items.zipIdx.map Prod.swap) = items := by
  have hmem {position : Nat} {item : Json} :
      (position, item) ∈ items.zipIdx.map Prod.swap ↔ items[position]? = some item := by
    rw [List.mem_map_swap, List.mem_zipIdx_iff_getElem?]
  have hnodup : ((items.zipIdx.map Prod.swap).map Prod.fst).Nodup := by
    have hpositions : (items.zipIdx.map Prod.swap).map Prod.fst = items.zipIdx.map Prod.snd := by
      simp only [List.map_map, Function.comp_def, Prod.fst_swap]
    rw [hpositions, List.zipIdx_map_snd]
    exact List.nodup_range'
  have hplaced : items.zipIdx.map Prod.swap ≠ [] := by simpa using hne
  obtain ⟨last, hlast, hlength, hmax⟩ := length_fill hplaced
  apply List.ext_getElem?
  intro position
  cases hitem : items[position]? with
  | some item => exact getElem?_fill_of_mem hnodup (hmem.2 hitem)
  | none =>
    have hlt := (List.getElem?_eq_some_iff.1 (hmem.1 hlast)).1
    rw [List.getElem?_eq_none_iff] at hitem ⊢
    omega

end Fill

variable {separator path : String} {children : List (String × PathTree)}

theorem buildChildren_eq_ok_iff {members : List (String × Json)} :
    buildChildren separator path children = .ok members ↔
      List.Forall₂ (fun child member => child.1 = member.1 ∧
        build separator (Path.join path child.1 separator) child.2 = .ok member.2) children members := by
  induction children generalizing members with
  | nil => simp [buildChildren, eq_comm]
  | cons child children ih =>
    obtain ⟨segment, subtree⟩ := child
    simp only [buildChildren, bind_eq_ok_iff, List.forall₂_cons_left_iff, ih]
    constructor
    · rintro ⟨value, hvalue, rest, hrest, h⟩
      cases h
      exact ⟨_, rest, ⟨rfl, hvalue⟩, hrest, rfl⟩
    · rintro ⟨⟨key, value⟩, rest, ⟨rfl, hvalue⟩, hrest, rfl⟩
      exact ⟨value, hvalue, rest, hrest, rfl⟩

/-- The limit of array lengths counts, since whatever is within it fits a word. -/
theorem position_ofIndex (separator path : String) (n : Nat) :
    position separator path (Path.ofIndex n) = if n ≤ maxIndex then .ok n
      else .error (.indexOutOfRange (Path.join path (Path.ofIndex n) separator) (Path.ofIndex n)) := by
  have hread : (Numeral.word? (Path.ofIndex n).toList).filter (· ≤ maxIndex) =
      if n ≤ maxIndex then some n else none := by
    rw [Numeral.word?_ofIndex]
    split
    · simp only [Option.filter_some, decide_eq_true_eq]
    · next hlarge =>
      have hmax : maxIndex < 2 ^ 64 := by decide
      rw [if_neg (by omega), Option.filter_none]
  rw [position, hread]
  by_cases hle : n ≤ maxIndex <;> simp only [hle, ↓reduceIte]

theorem position_eq_ok_iff {segment : String} (hindex : Path.isIndex segment = true) {n : Nat} :
    position separator path segment = .ok n ↔ segment = Path.ofIndex n ∧ n ≤ 1048576 := by
  obtain ⟨m, rfl⟩ := Path.isIndex_iff.1 hindex
  rw [position_ofIndex, Path.ofIndex_inj]
  by_cases hle : m ≤ maxIndex
  · simp only [hle, ↓reduceIte, Except.ok.injEq, iff_self_and]
    rintro rfl
    exact hle
  · simp only [hle, ↓reduceIte, reduceCtorEq, false_iff, not_and]
    rintro rfl
    exact hle

/-- A member is made from a child of the same segment. -/
abbrev MakesMember (separator path : String) (child : String × PathTree) (member : String × Json) : Prop :=
  child.1 = member.1 ∧ build separator (Path.join path child.1 separator) child.2 = .ok member.2

/-- An item is made from the child at its position, which an array may have. -/
abbrev MakesItem (separator path : String) (child : String × PathTree) (entry : Nat × Json) : Prop :=
  child.1 = Path.ofIndex entry.1 ∧ entry.1 ≤ 1048576 ∧
    build separator (Path.join path child.1 separator) child.2 = .ok entry.2

/-- Distinct segments of positions are those of distinct positions. -/
theorem nodup_of_keys_eq {placed : List (Nat × Json)} (hnodup : (Assoc.keys children).Nodup)
    (hkeys : Assoc.keys children = placed.map fun entry => Path.ofIndex entry.1) :
    (placed.map Prod.fst).Nodup := by
  apply List.Nodup.of_map Path.ofIndex
  rw [List.map_map]
  exact hkeys ▸ hnodup

private theorem forall₂_makesItem_iff {placed : List (Nat × Json)} :
    List.Forall₂ (MakesItem separator path) children placed ↔
      ∃ positions members,
        List.Forall₂ (fun child n => child.1 = Path.ofIndex n ∧ n ≤ 1048576) children positions ∧
        List.Forall₂ (MakesMember separator path) children members ∧
        placed = positions.zip (members.map Prod.snd) := by
  constructor
  · intro h
    induction h with
    | nil => exact ⟨[], [], .nil, .nil, rfl⟩
    | @cons child entry children placed hfirst hrest ih =>
      obtain ⟨positions, members, hpositions, hmembers, rfl⟩ := ih
      exact ⟨entry.1 :: positions, (child.1, entry.2) :: members, .cons ⟨hfirst.1, hfirst.2.1⟩ hpositions,
        .cons ⟨rfl, hfirst.2.2⟩ hmembers, rfl⟩
  · rintro ⟨positions, members, hpositions, hmembers, rfl⟩
    induction hpositions generalizing members with
    | nil =>
      cases hmembers
      exact .nil
    | cons hfirst hrest ih =>
      cases hmembers with
      | cons hmember hmembers => exact .cons ⟨hfirst.1, hfirst.2, hmember.2⟩ (ih _ hmembers)

/-- What a branch becomes: an object of the values of its children if their segments are names, an
array with these values at their positions if they are positions, and nothing otherwise. -/
theorem build_branch_eq_ok_iff {w : Json} :
    build separator path (.branch children) = .ok w ↔
      (∃ members, List.Forall₂ (MakesMember separator path) children members ∧
        (∀ child ∈ children, Path.isIndex child.1 = false) ∧ w = .object members) ∨
      (children ≠ [] ∧ ∃ placed, List.Forall₂ (MakesItem separator path) children placed ∧
        w = .array (fill placed)) := by
  rw [build]
  by_cases hnames : ∀ child ∈ children, Path.isIndex child.1 = false
  · have hcount : (children.countP fun child => Path.isIndex child.1) = 0 := by
      simpa [List.countP_eq_zero] using hnames
    simp only [hcount, ↓reduceIte, bind_eq_ok_iff, buildChildren_eq_ok_iff]
    constructor
    · rintro ⟨members, hmembers, h⟩
      cases h
      exact .inl ⟨members, hmembers, hnames, rfl⟩
    · rintro (⟨members, hmembers, -, rfl⟩ | ⟨hne, placed, hplaced, -⟩)
      · exact ⟨members, hmembers, rfl⟩
      · cases hplaced with
        | nil => exact absurd rfl hne
        | cons hfirst hrest =>
          have hindex := hnames _ List.mem_cons_self
          rw [hfirst.1, Path.isIndex_ofIndex] at hindex
          cases hindex
  · have hcount : (children.countP fun child => Path.isIndex child.1) ≠ 0 := by
      simpa [List.countP_eq_zero] using hnames
    rw [if_neg hcount]
    have hne : children ≠ [] := by
      rintro rfl
      exact hnames (by simp)
    by_cases hall : ∀ child ∈ children, Path.isIndex child.1 = true
    · have hlength : (children.countP fun child => Path.isIndex child.1) = children.length := by
        simpa [List.countP_eq_length] using hall
      have hpositions (positions : List Nat) :
          children.mapM (fun child => position separator path child.1) = .ok positions ↔
            List.Forall₂ (fun child n => child.1 = Path.ofIndex n ∧ n ≤ 1048576) children positions := by
        rw [mapM_eq_ok_iff]
        exact forall₂_congr_of_mem fun child hchild n => position_eq_ok_iff (hall child hchild)
      simp only [hlength, ne_eq, not_true_eq_false, ↓reduceIte, bind_eq_ok_iff, buildChildren_eq_ok_iff,
        hpositions, forall₂_makesItem_iff]
      constructor
      · rintro ⟨positions, hpositions, members, hmembers, h⟩
        cases h
        exact .inr ⟨hne, _, ⟨positions, members, hpositions, hmembers, rfl⟩, rfl⟩
      · rintro (⟨-, -, hnot, -⟩ | ⟨-, _, ⟨positions, members, hpositions, hmembers, rfl⟩, rfl⟩)
        · exact absurd hnot hnames
        · exact ⟨positions, hpositions, members, hmembers, rfl⟩
    · have hlength : (children.countP fun child => Path.isIndex child.1) ≠ children.length := by
        simpa [List.countP_eq_length] using hall
      rw [if_pos hlength]
      simp only [reduceCtorEq, false_iff, not_or]
      refine ⟨fun ⟨_, _, hnot, _⟩ => hnames hnot, fun ⟨_, placed, hplaced, _⟩ => hall ?_⟩
      intro child hchild
      obtain ⟨entry, -, hsegment, -⟩ := exists_right_of_forall₂ hplaced hchild
      rw [hsegment, Path.isIndex_ofIndex]

/-- A tree as it stands below a root: a leaf, or a branch of which every branch leads to a leaf. -/
def Sound : PathTree → Prop
  | leaf _ => True
  | branch children => Grown children

theorem Grown.sound_child (h : Grown children) {child : String × PathTree} (hchild : child ∈ children) :
    child.2.Sound := by
  have hdistinct := h.distinct.child hchild
  have hfruitful := h.fruitful child hchild
  revert hdistinct hfruitful
  cases child.2 with
  | leaf value => exact fun _ _ => trivial
  | branch grandchildren =>
    intro hdistinct hfruitful
    cases hfruitful with
    | branch hne hchildren => exact ⟨hdistinct, hchildren⟩

/-- The segments at the root are those of the children, since each of them leads to a leaf. -/
theorem Grown.continues_nil_iff (h : Grown children) {segment : String} :
    (branch children).content.Continues [] segment ↔ segment ∈ Assoc.keys children := by
  constructor
  · rintro ⟨rest, x, hx⟩
    obtain ⟨child, hchild, -⟩ := content_branch_cons.1 hx
    exact Assoc.exists_find?_eq_some_iff.1 ⟨child, hchild⟩
  · intro hsegment
    obtain ⟨child, hchild⟩ := Assoc.exists_find?_eq_some_iff.2 hsegment
    have hmem := Assoc.mem_of_find?_eq_some hchild
    obtain ⟨rest, x, hx⟩ := (h.fruitful _ hmem).exists_content (h.distinct.child hmem)
    exact ⟨rest, x, content_branch_cons.2 ⟨child, hchild, hx⟩⟩

theorem content_below {segment : String} {child : PathTree}
    (hchild : Assoc.find? children segment = some child) :
    (branch children).content.below segment = child.content := by
  funext path x
  simp [Content.below, content_branch_cons, hchild]

/-- A property of all segments at the root is one of the segments of all children. -/
theorem Grown.forall_continues_iff (h : Grown children) {p : String → Prop} :
    (∀ segment, (branch children).content.Continues [] segment → p segment) ↔
      ∀ child ∈ children, p child.1 := by
  simp only [h.continues_nil_iff, Assoc.keys, List.mem_map]
  constructor
  · exact fun hall child hchild => hall _ ⟨child, hchild, rfl⟩
  · rintro hall segment ⟨child, hchild, rfl⟩
    exact hall child hchild

/-- A property of the content below every segment is one of the content of all children, if content
without values has it: nothing stands below a segment that no child has. -/
theorem Grown.forall_below_iff (h : Grown children) {p : Content → Prop}
    (hempty : ∀ c : Content, (∀ path x, ¬ c path x) → p c) :
    (∀ segment, p ((branch children).content.below segment)) ↔ ∀ child ∈ children, p child.2.content := by
  constructor
  · intro hall child hchild
    rw [← content_below ((Assoc.find?_eq_some_iff h.distinct.nodup_keys).2 hchild)]
    exact hall child.1
  · intro hall segment
    cases hfind : Assoc.find? children segment with
    | none =>
      refine hempty _ fun path x hx => ?_
      obtain ⟨child, hchild, -⟩ := content_branch_cons.1 hx
      rw [hfind] at hchild
      cases hchild
    | some child =>
      rw [content_below hfind]
      exact hall _ (Assoc.mem_of_find?_eq_some hfind)

/-- A tree stands for a value exactly if its content is unambiguous. -/
theorem exists_build_eq_ok_iff {t : PathTree} (hsound : t.Sound) (separator path : String) :
    (∃ w, build separator path t = .ok w) ↔ t.content.Unambiguous := by
  induction t using branches_induction generalizing path with
  | hleaf value =>
    refine iff_of_true ⟨value, by rw [build]⟩ ⟨?_, ?_, ?_⟩
    · intro path x other rest hx hrest _
      rw [(content_leaf.1 hx).1, (content_leaf.1 hrest).1]
    · exact fun path => .inl fun segment ⟨rest, x, hx⟩ => by simpa using (content_leaf.1 hx).1
    · exact fun path position ⟨rest, x, hx⟩ => by simpa using (content_leaf.1 hx).1
  | hbranch children ih =>
    have hgrown : Grown children := hsound
    have hbelow : (∀ segment, ((branch children).content.below segment).Unambiguous) ↔
        ∀ child ∈ children, ∃ v, build separator (Path.join path child.1 separator) child.2 = .ok v := by
      rw [hgrown.forall_below_iff fun c => Content.unambiguous_of_empty]
      exact forall₂_congr fun child hchild => (ih child hchild (hgrown.sound_child hchild) _).symm
    rw [Content.unambiguous_iff_below (not_content_branch_nil children), hbelow,
      hgrown.forall_continues_iff, hgrown.forall_continues_iff]
    constructor
    · rintro ⟨w, hw⟩
      rcases build_branch_eq_ok_iff.1 hw with ⟨members, hmembers, hnames, -⟩ | ⟨-, placed, hplaced, -⟩
      · refine ⟨.inr hnames, ?_, fun child hchild => ?_⟩
        · intro position hposition
          obtain ⟨child, hchild⟩ := Assoc.mem_keys_iff.1 (hgrown.continues_nil_iff.1 hposition)
          have hname := hnames _ hchild
          rw [Path.isIndex_ofIndex] at hname
          cases hname
        · obtain ⟨member, -, -, hmember⟩ := exists_right_of_forall₂ hmembers hchild
          exact ⟨_, hmember⟩
      · have hitems := fun child hchild => exists_right_of_forall₂ hplaced (x := child) hchild
        refine ⟨.inl fun child hchild => ?_, ?_, fun child hchild => ?_⟩
        · obtain ⟨entry, -, hentry, -⟩ := hitems child hchild
          rw [hentry, Path.isIndex_ofIndex]
        · intro position hposition
          obtain ⟨child, hchild⟩ := Assoc.mem_keys_iff.1 (hgrown.continues_nil_iff.1 hposition)
          obtain ⟨entry, -, hentry, hle, -⟩ := hitems _ hchild
          rwa [Path.ofIndex_inj.1 hentry]
        · obtain ⟨entry, -, -, -, hentry⟩ := hitems child hchild
          exact ⟨_, hentry⟩
    · rintro ⟨hkind, hrange, hchildren⟩
      by_cases hempty : children = []
      · subst hempty
        exact ⟨.object [], build_branch_eq_ok_iff.2 (.inl ⟨[], .nil, by simp, rfl⟩)⟩
      rcases hkind with hpositions | hnames
      · have hitems : ∀ child ∈ children, ∃ entry, MakesItem separator path child entry := by
          intro child hchild
          obtain ⟨position, hposition⟩ := Path.isIndex_iff.1 (hpositions child hchild)
          obtain ⟨v, hv⟩ := hchildren child hchild
          refine ⟨(position, v), hposition, hrange position ?_, hv⟩
          exact hgrown.continues_nil_iff.2 (hposition ▸ Assoc.mem_keys_of_mem hchild)
        obtain ⟨placed, hplaced⟩ := exists_forall₂ hitems
        exact ⟨_, build_branch_eq_ok_iff.2 (.inr ⟨hempty, placed, hplaced, rfl⟩)⟩
      · have hmembers : ∀ child ∈ children, ∃ member, MakesMember separator path child member := by
          intro child hchild
          obtain ⟨v, hv⟩ := hchildren child hchild
          exact ⟨(child.1, v), rfl, hv⟩
        obtain ⟨members, hmembers⟩ := exists_forall₂ hmembers
        exact ⟨_, build_branch_eq_ok_iff.2 (.inl ⟨members, hmembers, hnames, rfl⟩)⟩

/-- Members that carry what stands at their children make an object that carries what stands at the
branch. -/
theorem Grown.carries_object (h : Grown children) (hnames : ∀ child ∈ children, Path.isIndex child.1 = false)
    {members : List (String × Json)}
    (hmembers : List.Forall₂ (fun child member => child.1 = member.1 ∧ member.2.Carries child.2.content)
      children members) : (Json.object members).Carries (branch children).content := by
  have hkeys : Assoc.keys children = Assoc.keys members :=
    map_eq_map_of_forall₂ hmembers fun child member hmember => hmember.1
  have hnodup : (Assoc.keys members).Nodup := hkeys ▸ h.distinct.nodup_keys
  refine .of_children (not_content_branch_nil children) ?_ ?_ ?_
  · intro segment hsegment
    obtain ⟨child, hchild⟩ := Assoc.exists_find?_eq_some_iff.2 (h.continues_nil_iff.1 hsegment)
    obtain ⟨⟨key, v⟩, hmember, rfl, hv⟩ :=
      exists_right_of_forall₂ hmembers (Assoc.mem_of_find?_eq_some hchild)
    refine ⟨v, (Assoc.find?_eq_some_iff hnodup).2 hmember, ?_⟩
    rw [content_below hchild]
    exact hv
  · intro _
    refine ⟨members, rfl, hnodup, fun segment => ?_⟩
    rw [h.continues_nil_iff, hkeys]
  · rintro ⟨position, hposition⟩
    have hname : Path.isIndex (Path.ofIndex position) = false :=
      (h.forall_continues_iff (p := fun segment => Path.isIndex segment = false)).2 hnames _ hposition
    rw [Path.isIndex_ofIndex] at hname
    cases hname

/-- Items that carry what stands at the children of their positions make an array that carries what stands
at the branch. -/
theorem Grown.carries_array (h : Grown children) (hne : children ≠ []) {placed : List (Nat × Json)}
    (hplaced : List.Forall₂
      (fun child entry => child.1 = Path.ofIndex entry.1 ∧ entry.2.Carries child.2.content) children placed) :
    (Json.array (fill placed)).Carries (branch children).content := by
  have hkeys : Assoc.keys children = placed.map fun entry => Path.ofIndex entry.1 :=
    map_eq_map_of_forall₂ hplaced fun child entry hentry => hentry.1
  have hpositions : (placed.map Prod.fst).Nodup := nodup_of_keys_eq h.distinct.nodup_keys hkeys
  have hcontinues (position : Nat) :
      (branch children).content.Continues [] (Path.ofIndex position) ↔ position ∈ placed.map Prod.fst := by
    rw [h.continues_nil_iff, hkeys]
    simp [Path.ofIndex_inj]
  refine .of_children (not_content_branch_nil children) ?_ ?_ ?_
  · intro segment hsegment
    obtain ⟨child, hchild⟩ := Assoc.exists_find?_eq_some_iff.2 (h.continues_nil_iff.1 hsegment)
    obtain ⟨⟨position, v⟩, hentry, rfl, hv⟩ :=
      exists_right_of_forall₂ hplaced (Assoc.mem_of_find?_eq_some hchild)
    refine ⟨v, by simpa using getElem?_fill_of_mem hpositions hentry, ?_⟩
    rw [content_below hchild]
    exact hv
  · intro hnames
    obtain ⟨child, rest, rfl⟩ := List.exists_cons_of_ne_nil hne
    obtain ⟨entry, -, hentry, -⟩ := exists_right_of_forall₂ hplaced List.mem_cons_self
    have hname := h.forall_continues_iff.1 hnames child List.mem_cons_self
    rw [hentry, Path.isIndex_ofIndex] at hname
    cases hname
  · intro _
    have hplacedNe : placed ≠ [] := by
      rintro rfl
      cases hplaced
      exact hne rfl
    obtain ⟨last, hlast, hlength, hmax⟩ := length_fill hplacedNe
    refine ⟨fill placed, last.1, rfl, hlength, (hcontinues _).2 (List.mem_map_of_mem hlast), ?_, ?_⟩
    · intro position hposition
      obtain ⟨entry, hentry, rfl⟩ := List.mem_map.1 ((hcontinues _).1 hposition)
      exact hmax entry hentry
    · intro position hle hgap
      exact getElem?_fill_of_not_mem (fun hmem => hgap ((hcontinues _).2 hmem)) (by omega)

/-- The value that a tree stands for carries the tree's content. -/
theorem carries_of_build_eq_ok {t : PathTree} (hsound : t.Sound) {separator path : String} {w : Json}
    (h : build separator path t = .ok w) : w.Carries t.content := by
  induction t using branches_induction generalizing path w with
  | hleaf value =>
    obtain rfl : value = w := by simpa [build] using h
    refine .of_containers ?_ ?_ ?_
    · intro path x hx
      obtain ⟨rfl, rfl⟩ := content_leaf.1 hx
      rfl
    · rintro path (⟨segment, rest, x, hx⟩ | ⟨-, hnone⟩) _
      · simpa using (content_leaf.1 hx).1
      · exact absurd (content_leaf.2 ⟨rfl, rfl⟩) (hnone value)
    · rintro path ⟨position, rest, x, hx⟩
      simpa using (content_leaf.1 hx).1
  | hbranch children ih =>
    have hgrown : Grown children := hsound
    rcases build_branch_eq_ok_iff.1 h with ⟨members, hmembers, hnames, rfl⟩ | ⟨hne, placed, hplaced, rfl⟩
    · refine hgrown.carries_object hnames ((forall₂_and_mem hmembers).imp ?_)
      rintro child member ⟨hchild, hkey, hmember⟩
      exact ⟨hkey, ih child hchild (hgrown.sound_child hchild) hmember⟩
    · refine hgrown.carries_array hne ((forall₂_and_mem hplaced).imp ?_)
      rintro child entry ⟨hchild, hposition, -, hentry⟩
      exact ⟨hposition, ih child hchild (hgrown.sound_child hchild) hentry⟩

end FieldRules.PathTree
