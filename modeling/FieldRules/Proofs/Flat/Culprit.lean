import FieldRules.Proofs.Flat.Deflate

/-!
What a view is refused for. A conflict of paths is found while the tree is made, whichever of the two entries comes
second; only a view without one is refused for the segments in a container. In each case the refusal names a place
at which the view has the fault.
-/

namespace FieldRules

/-- The segments of a path are the front of those of another, which go on behind them. -/
def Path.IsAbove (separator path other : String) : Prop :=
  segments separator path <+: segments separator other ∧ segments separator path ≠ segments separator other

/-- Some of the segments behind a path are positions, and some are not. -/
def Content.Mixed (c : Content) (path : List String) : Prop :=
  (∃ segment, c.Continues path segment ∧ Path.isIndex segment = true) ∧
    ∃ segment, c.Continues path segment ∧ Path.isIndex segment = false

/-- Among positions there is one beyond the limit of array lengths. -/
structure Content.OutOfRange (c : Content) (path : List String) (n : Nat) : Prop where
  continues : c.Continues path (Path.ofIndex n)
  large : 1048576 < n
  positions : ∀ segment, c.Continues path segment → Path.isIndex segment = true

namespace PathTree

variable {separator path : String} {children : List (String × PathTree)} {e : Error}

/-- A value that finds no place is refused for a path with a value: one on the way to its own place, or its own if
others go on behind it. -/
theorem exists_of_add_eq_error (hgrown : Grown children) {segments : List String} (hne : segments ≠ [])
    {value : Json} (h : add separator path children segments value = .error e) :
    ∃ front, e = .pathConflict (Path.descend separator path front) ∧
      ((front <+: segments ∧ ∃ x, (branch children).content front x) ∨
        (front = segments ∧ ∃ other x, (branch children).content other x ∧ segments <+: other)) := by
  induction segments generalizing path children with
  | nil => exact absurd rfl hne
  | cons head rest ih =>
    by_cases hrest : rest = []
    · subst hrest
      rw [add_single] at h
      cases hfind : Assoc.find? children head with
      | none => simp [hfind] at h
      | some child =>
        have hmem := Assoc.mem_of_find?_eq_some hfind
        obtain ⟨other, x, hx⟩ := (hgrown.fruitful _ hmem).exists_content (hgrown.distinct.child hmem)
        rw [hfind] at h
        cases h
        exact ⟨[head], rfl, .inr ⟨rfl, head :: other, x, content_branch_cons.2 ⟨child, hfind, hx⟩, by simp⟩⟩
    · rw [add_cons hrest] at h
      cases hroom : room? (Assoc.find? children head) with
      | none =>
        rw [hroom] at h
        cases h
        exact ⟨[head], rfl, .inl ⟨by simp, room?_eq_none_iff.1 hroom⟩⟩
      | some below =>
        rw [hroom] at h
        obtain ⟨front, rfl, hfront⟩ := ih (hgrown.room hroom) hrest (map_eq_error_iff.1 h)
        refine ⟨head :: front, rfl, ?_⟩
        rcases hfront with ⟨hbegins, x, hx⟩ | ⟨rfl, other, x, hx, hbegins⟩
        · exact .inl ⟨List.cons_prefix_cons.2 ⟨rfl, hbegins⟩, x, (content_of_room hroom).2 hx⟩
        · exact .inr ⟨rfl, head :: other, x, (content_of_room hroom).2 hx, List.cons_prefix_cons.2 ⟨rfl, hbegins⟩⟩

/-- Whatever the children, a value is refused for nothing but a conflict. -/
theorem exists_pathConflict_of_add_eq_error {segments : List String} {value : Json}
    (h : add separator path children segments value = .error e) : ∃ conflict, e = .pathConflict conflict := by
  fun_induction add separator path children segments value with
  | case1 | case2 => cases h
  | case3 | case4 => exact ⟨_, (Except.error.inj h).symm⟩
  | case5 _ _ _ _ _ _ _ _ ih | case6 _ _ _ _ _ _ _ ih =>
    rcases bind_eq_error_iff.1 h with hbelow | ⟨grown, -, hgrown⟩
    · exact ih hbelow
    · cases hgrown

/-- Values under distinct paths are refused for one of these paths that goes on to another. -/
theorem exists_of_addAll_eq_error {entries : List (List String × Json)} (hne : ∀ entry ∈ entries, entry.1 ≠ [])
    (hdistinct : (entries.map Prod.fst).Nodup) (h : addAll separator path [] entries = .error e) :
    ∃ front ∈ entries.map Prod.fst, ∃ other ∈ entries.map Prod.fst,
      e = .pathConflict (Path.descend separator path front) ∧ front <+: other ∧ front ≠ other := by
  obtain ⟨before, entry, after, middle, rfl, hbefore, hadd⟩ := exists_append_of_foldlM_eq_error h
  have hentries := List.forall_mem_append.1 hne
  obtain ⟨hgrown, hcontent⟩ := addAll_spec .nil hentries.1 hbefore
  have hmem {front : List String} {x : Json} (hx : (branch middle).content front x) :
      front ∈ before.map Prod.fst :=
    List.mem_map_of_mem ((hcontent front x).1 hx |>.resolve_right (not_content_branch_empty front x))
  have hfresh : entry.1 ∉ before.map Prod.fst := by
    rw [List.map_append, List.map_cons] at hdistinct
    exact fun hentry => (List.nodup_append.1 hdistinct).2.2 _ hentry _ List.mem_cons_self rfl
  have hkept {front : List String} (hfront : front ∈ before.map Prod.fst) :
      front ∈ (before ++ entry :: after).map Prod.fst := by
    rw [List.map_append]
    exact List.mem_append_left _ hfront
  have hown : entry.1 ∈ (before ++ entry :: after).map Prod.fst := List.mem_map_of_mem (by simp)
  obtain ⟨front, rfl, hfront⟩ := exists_of_add_eq_error hgrown (hentries.2 entry List.mem_cons_self) hadd
  rcases hfront with ⟨hbegins, x, hx⟩ | ⟨rfl, other, x, hx, hbegins⟩
  · refine ⟨front, hkept (hmem hx), entry.1, hown, rfl, hbegins, ?_⟩
    rintro rfl
    exact hfresh (hmem hx)
  · refine ⟨_, hown, other, hkept (hmem hx), rfl, hbegins, ?_⟩
    rintro rfl
    exact hfresh (hmem hx)

/-- A child's value that cannot be built is what its branch is refused for. -/
theorem exists_of_buildChildren_eq_error (h : buildChildren separator path children = .error e) :
    ∃ child ∈ children, build separator (Path.join path child.1 separator) child.2 = .error e := by
  induction children with
  | nil =>
    rw [buildChildren] at h
    cases h
  | cons child children ih =>
    obtain ⟨segment, subtree⟩ := child
    rw [buildChildren, bind_eq_error_iff] at h
    rcases h with hfirst | ⟨value, -, h⟩
    · exact ⟨_, List.mem_cons_self, hfirst⟩
    · rcases bind_eq_error_iff.1 h with hrest | ⟨values, -, hok⟩
      · obtain ⟨child, hchild, hfail⟩ := ih hrest
        exact ⟨child, List.mem_cons_of_mem _ hchild, hfail⟩
      · cases hok

/-- The ways in which a branch is refused: for segments of both kinds, for a position that is too large, or for what
stands below a child. -/
theorem build_branch_error_cases (h : build separator path (.branch children) = .error e) :
    (e = .ambiguousContainer path ∧ (∃ child ∈ children, Path.isIndex child.1 = true) ∧
      ∃ child ∈ children, Path.isIndex child.1 = false) ∨
    ((∀ child ∈ children, Path.isIndex child.1 = true) ∧
      ∃ child ∈ children, position separator path child.1 = .error e) ∨
    ∃ child ∈ children, build separator (Path.join path child.1 separator) child.2 = .error e := by
  rw [build] at h
  by_cases hnames : (children.countP fun child => Path.isIndex child.1) = 0
  · rw [if_pos hnames] at h
    rcases bind_eq_error_iff.1 h with hchildren | ⟨members, -, hok⟩
    · exact .inr (.inr (exists_of_buildChildren_eq_error hchildren))
    · cases hok
  · rw [if_neg hnames] at h
    obtain ⟨child, hchild, hindex⟩ : ∃ child ∈ children, Path.isIndex child.1 = true := by
      simpa [List.countP_eq_zero] using hnames
    by_cases hall : (children.countP fun child => Path.isIndex child.1) = children.length
    · rw [if_neg (not_not.2 hall)] at h
      rcases bind_eq_error_iff.1 h with hpositions | ⟨positions, -, h⟩
      · exact .inr (.inl ⟨List.countP_eq_length.1 hall, exists_of_mapM_eq_error hpositions⟩)
      · rcases bind_eq_error_iff.1 h with hchildren | ⟨members, -, hok⟩
        · exact .inr (.inr (exists_of_buildChildren_eq_error hchildren))
        · cases hok
    · rw [if_pos hall] at h
      cases h
      obtain ⟨other, hother, hname⟩ : ∃ child ∈ children, Path.isIndex child.1 = false := by
        simpa [List.countP_eq_length] using hall
      exact .inl ⟨rfl, ⟨child, hchild, hindex⟩, other, hother, hname⟩

theorem position_eq_error {segment : String} (hindex : Path.isIndex segment = true)
    (h : position separator path segment = .error e) :
    ∃ n, segment = Path.ofIndex n ∧ 1048576 < n ∧
      e = .indexOutOfRange (Path.join path segment separator) (Path.ofIndex n) := by
  obtain ⟨n, rfl⟩ := Path.isIndex_iff.1 hindex
  rw [position_ofIndex] at h
  split at h
  · cases h
  · next hlarge =>
    cases h
    exact ⟨n, rfl, by simpa [maxIndex] using hlarge, rfl⟩

/-- A tree is refused for a branch of it whose segments are of both kinds, or for a position that is too large. -/
theorem exists_of_build_eq_error {t : PathTree} (hsound : t.Sound) (h : build separator path t = .error e) :
    (∃ front, e = .ambiguousContainer (Path.descend separator path front) ∧ t.content.Mixed front) ∨
    ∃ front n, e = .indexOutOfRange (Path.descend separator path (front ++ [Path.ofIndex n])) (Path.ofIndex n) ∧
      t.content.OutOfRange front n := by
  induction t using branches_induction generalizing path with
  | hleaf value =>
    rw [build] at h
    cases h
  | hbranch children ih =>
    have hgrown : Grown children := hsound
    have hcontinues {child : String × PathTree} (hchild : child ∈ children) :
        (branch children).content.Continues [] child.1 :=
      hgrown.continues_nil_iff.2 (Assoc.mem_keys_of_mem hchild)
    rcases build_branch_error_cases h with ⟨rfl, ⟨child, hchild, hindex⟩, other, hother, hname⟩ |
      ⟨hall, child, hchild, hposition⟩ | ⟨child, hchild, hbelow⟩
    · exact .inl ⟨[], rfl, ⟨_, hcontinues hchild, hindex⟩, _, hcontinues hother, hname⟩
    · obtain ⟨n, hn, hlarge, rfl⟩ := position_eq_error (hall child hchild) hposition
      refine .inr ⟨[], n, by simp [hn], ⟨hn ▸ hcontinues hchild, hlarge, ?_⟩⟩
      exact (hgrown.forall_continues_iff (p := fun segment => Path.isIndex segment = true)).2 hall
    · -- Behind a child's segment the tree goes on as the child does.
      have hchildContent : (branch children).content.below child.1 = child.2.content :=
        content_below ((Assoc.find?_eq_some_iff hgrown.distinct.nodup_keys).2 hchild)
      have hgoesOn (front : List String) (segment : String) :
          (branch children).content.Continues (child.1 :: front) segment ↔
            child.2.content.Continues front segment := by
        rw [← hchildContent]
        rfl
      rcases ih child hchild (hgrown.sound_child hchild) hbelow with ⟨front, rfl, hmixed⟩ | ⟨front, n, rfl, hrange⟩
      · exact .inl ⟨child.1 :: front, rfl, by simpa only [Content.Mixed, hgoesOn] using hmixed⟩
      · refine .inr ⟨child.1 :: front, n, rfl, ⟨(hgoesOn _ _).2 hrange.continues, hrange.large, ?_⟩⟩
        exact fun segment hsegment => hrange.positions segment ((hgoesOn _ _).1 hsegment)

end PathTree

namespace FlatView

variable {separator : String} {view : FlatView}

/-- What a view without an empty key is refused for is found while its tree is made or while its value is built. -/
theorem deflate_eq_error_iff (hsep : separator ≠ "") (hroot : "" ∉ view.keys) {e : Error} :
    view.deflate separator = .error e ↔ PathTree.ofView separator view = .error e ∨
      ∃ children, PathTree.ofView separator view = .ok children ∧
        PathTree.build separator "" (.branch children) = .error e := by
  rw [deflate, if_neg (by simpa using hsep), OrderedMap.get?_eq_none_iff.2 hroot]
  exact bind_eq_error_iff

/-- The three things that a view can be refused for. -/
theorem deflate_error_cases (hsep : separator ≠ "") {e : Error} (h : view.deflate separator = .error e) :
    (∃ path, e = .pathConflict path) ∨ (∃ path, e = .ambiguousContainer path) ∨
      ∃ path index, e = .indexOutOfRange path index := by
  by_cases hroot : "" ∈ view.keys
  · obtain ⟨value, hvalue⟩ := OrderedMap.mem_keys_iff.1 hroot
    rw [deflate, if_neg (by simpa using hsep), OrderedMap.get?_eq_some_iff.2 hvalue] at h
    simp only at h
    split at h
    · cases h
    · exact .inl ⟨_, (Except.error.inj h).symm⟩
  · rcases (deflate_eq_error_iff hsep hroot).1 h with htree | ⟨children, htree, hbuild⟩
    · obtain ⟨_, _, _, _, -, -, hadd⟩ := exists_append_of_foldlM_eq_error htree
      exact .inl (PathTree.exists_pathConflict_of_add_eq_error hadd)
    · have hgrown := (content_of_ofView_eq_ok htree).1
      rcases PathTree.exists_of_build_eq_error (t := .branch children) hgrown hbuild with
        ⟨front, rfl, -⟩ | ⟨front, n, rfl, -⟩
      · exact .inr (.inl ⟨_, rfl⟩)
      · exact .inr (.inr ⟨_, _, rfl⟩)

theorem exists_key_of_continues {front : List String} {segment : String}
    (h : (view.content separator).Continues front segment) :
    ∃ key ∈ view.keys, front ++ [segment] <+: Path.segments separator key := by
  obtain ⟨path, value, ⟨key, hmem, rfl⟩, hbegins⟩ := h.exists_path
  exact ⟨key, OrderedMap.mem_keys_iff.2 ⟨value, hmem⟩, hbegins⟩

section Culprit

variable (hsep : separator ≠ "") (hroot : "" ∉ view.keys)
  (hstart : ∀ key ∈ view.keys, ¬ separator.toList <+: key.toList)

include hsep hroot hstart

/-- The path that is put together on the way along the first segments of a key is made of these. -/
theorem descend_eq_of_isPrefix {key : String} (hkey : key ∈ view.keys) {front : List String}
    (hfront : front <+: Path.segments separator key) :
    Path.descend separator "" front = Path.ofSegments separator front := by
  refine Path.descend_empty_eq_ofSegments fun rest heq => hstart key hkey ?_
  have hne : key ≠ "" := by
    rintro rfl
    exact hroot hkey
  obtain ⟨tail, htail⟩ := heq ▸ hfront
  exact (Path.exists_segments_eq_cons_empty_iff hsep hne).1 ⟨rest ++ tail, htail.symm⟩

/-- A tree that cannot be made is refused for a key that is above another. -/
theorem exists_of_ofView_eq_error {e : Error} (h : PathTree.ofView separator view = .error e) :
    ∃ path ∈ view.keys, ∃ other ∈ view.keys, e = .pathConflict path ∧ Path.IsAbove separator path other := by
  let entries := view.entries.map fun entry => (Path.segments separator entry.1, entry.2)
  have hpaths : entries.map Prod.fst = view.keys.map (Path.segments separator) := by
    simp [entries, OrderedMap.keys, Assoc.keys]
  have hdistinct : (entries.map Prod.fst).Nodup := by
    rw [hpaths]
    exact view.distinct.map fun a b heq => (Path.segments_inj hsep).1 heq
  have hne : ∀ entry ∈ entries, entry.1 ≠ [] := by
    intro entry hentry
    obtain ⟨⟨key, value⟩, -, rfl⟩ := List.mem_map.1 hentry
    exact Path.segments_ne_nil separator key
  rw [PathTree.ofView_eq_addAll] at h
  obtain ⟨front, hfront, other, hother, rfl, hbegins, hdiffer⟩ :=
    PathTree.exists_of_addAll_eq_error hne hdistinct h
  rw [hpaths, List.mem_map] at hfront hother
  obtain ⟨path, hpath, rfl⟩ := hfront
  obtain ⟨key, hkey, rfl⟩ := hother
  refine ⟨path, hpath, key, hkey, ?_, hbegins, hdiffer⟩
  rw [descend_eq_of_isPrefix hsep hroot hstart hpath List.prefix_rfl, Path.ofSegments_segments hsep]

/-- Keys of which one is above another do not find their places. -/
theorem exists_pathConflict_of_isAbove {key other : String} (hkey : key ∈ view.keys) (hother : other ∈ view.keys)
    (habove : Path.IsAbove separator key other) : ∃ path, view.deflate separator = .error (.pathConflict path) := by
  obtain ⟨x, hx⟩ := OrderedMap.mem_keys_iff.1 hkey
  obtain ⟨y, hy⟩ := OrderedMap.mem_keys_iff.1 hother
  cases htree : PathTree.ofView separator view with
  | ok children =>
    have hfree := (exists_ofView_eq_ok_iff hsep).1 ⟨children, htree⟩
    exact absurd (hfree _ x _ y ⟨key, hx, rfl⟩ ⟨other, hy, rfl⟩ habove.1) habove.2
  | error e =>
    obtain ⟨path, -, -, -, rfl, -⟩ := exists_of_ofView_eq_error hsep hroot hstart htree
    exact ⟨path, (deflate_eq_error_iff hsep hroot).2 (.inl htree)⟩

/-- A conflict is found only while the tree is made. -/
theorem pathConflict_culprit {path : String} (h : view.deflate separator = .error (.pathConflict path)) :
    path ∈ view.keys ∧ ∃ other ∈ view.keys, Path.IsAbove separator path other := by
  rcases (deflate_eq_error_iff hsep hroot).1 h with htree | ⟨children, htree, hbuild⟩
  · obtain ⟨culprit, hculprit, other, hother, heq, habove⟩ := exists_of_ofView_eq_error hsep hroot hstart htree
    obtain rfl : path = culprit := Error.pathConflict.inj heq
    exact ⟨hculprit, other, hother, habove⟩
  · have hgrown := (content_of_ofView_eq_ok htree).1
    rcases PathTree.exists_of_build_eq_error (t := .branch children) hgrown hbuild with
      ⟨_, heq, -⟩ | ⟨_, _, heq, -⟩ <;> cases heq

/-- A view is refused for a conflict of paths if one of its keys is above another, whatever the order of its
entries, and the path is such a key. Otherwise it is refused, if at all, for a path behind which some segments are
positions and some are not, or for a position that is too large among positions, and the path is made of the first
segments of a key. -/
theorem deflate_culprit :
    ((∃ key ∈ view.keys, ∃ other ∈ view.keys, Path.IsAbove separator key other) →
      ∀ shuffled : FlatView, shuffled.entries.Perm view.entries → ∃ path ∈ view.keys, ∃ other ∈ view.keys,
        shuffled.deflate separator = .error (.pathConflict path) ∧ Path.IsAbove separator path other) ∧
    ((¬ ∃ key ∈ view.keys, ∃ other ∈ view.keys, Path.IsAbove separator key other) →
      ∀ e, view.deflate separator = .error e →
        (∃ front, e = .ambiguousContainer (Path.ofSegments separator front) ∧
          (view.content separator).Mixed front) ∨
        ∃ path index front n, e = .indexOutOfRange path index ∧ index = Path.ofIndex n ∧
          Path.segments separator path = front ++ [index] ∧
          (∃ key ∈ view.keys, Path.segments separator path <+: Path.segments separator key) ∧
          (view.content separator).OutOfRange front n) := by
  constructor
  · rintro ⟨key, hkey, other, hother, habove⟩ shuffled hperm
    have hkeys (key : String) : key ∈ shuffled.keys ↔ key ∈ view.keys := (hperm.map Prod.fst).mem_iff
    have hroot' : "" ∉ shuffled.keys := mt (hkeys "").1 hroot
    have hstart' : ∀ key ∈ shuffled.keys, ¬ separator.toList <+: key.toList :=
      fun key hkey => hstart key ((hkeys key).1 hkey)
    obtain ⟨path, hpath⟩ := exists_pathConflict_of_isAbove hsep hroot' hstart' ((hkeys key).2 hkey)
      ((hkeys other).2 hother) habove
    obtain ⟨hculprit, below, hbelow, hfound⟩ := pathConflict_culprit hsep hroot' hstart' hpath
    exact ⟨path, (hkeys path).1 hculprit, below, (hkeys below).1 hbelow, hpath, hfound⟩
  · intro hfree e h
    rcases (deflate_eq_error_iff hsep hroot).1 h with htree | ⟨children, htree, hbuild⟩
    · obtain ⟨key, hkey, other, hother, -, habove⟩ := exists_of_ofView_eq_error hsep hroot hstart htree
      exact absurd ⟨key, hkey, other, hother, habove⟩ hfree
    · obtain ⟨hgrown, hcontent⟩ := content_of_ofView_eq_ok htree
      have hculprit := PathTree.exists_of_build_eq_error (t := .branch children) hgrown hbuild
      rw [hcontent] at hculprit
      rcases hculprit with ⟨front, rfl, hmixed⟩ | ⟨front, n, rfl, hrange⟩
      · obtain ⟨segment, hsegment, -⟩ := hmixed.1
        obtain ⟨key, hkey, hbegins⟩ := exists_key_of_continues hsegment
        have hfront := (List.prefix_append front [segment]).trans hbegins
        rw [descend_eq_of_isPrefix hsep hroot hstart hkey hfront]
        exact .inl ⟨front, rfl, hmixed⟩
      · obtain ⟨key, hkey, hbegins⟩ := exists_key_of_continues hrange.continues
        have hpath := Path.segments_ofSegments_of_isPrefix hsep (by simp) hbegins
        rw [descend_eq_of_isPrefix hsep hroot hstart hkey hbegins]
        exact .inr ⟨_, _, front, n, rfl, rfl, hpath, ⟨key, hkey, by rwa [hpath]⟩, hrange⟩

end Culprit

/-- A conflict that is found at the shorter key, which comes second, in spite of segments of both kinds elsewhere; and
a position that is too large. -/
theorem deflate_culprit_late :
    let conflict : FlatView := .ofList [("b.0", .null), ("a.x.y", .null), ("b.c", .null), ("a.x", .null)]
    let large : FlatView := .ofList [("a.1048577", .null), ("a.0", .null)]
    (∃ path ∈ conflict.keys, ∃ other ∈ conflict.keys,
      conflict.deflate "." = .error (.pathConflict path) ∧ Path.IsAbove "." path other) ∧
    large.deflate "." = .error (.indexOutOfRange "a.1048577" "1048577") ∧
      ∃ front n, Path.segments "." "a.1048577" = front ++ [Path.ofIndex n] ∧
        (large.content ".").OutOfRange front n := by
  intro conflict large
  have hlarge : large.deflate "." = .error (.indexOutOfRange "a.1048577" "1048577") := by decide +kernel
  have habove : ∃ key ∈ conflict.keys, ∃ other ∈ conflict.keys, Path.IsAbove "." key other :=
    ⟨"a.x", by decide, "a.x.y", by decide, by decide, by decide⟩
  have hfree : ¬ ∃ key ∈ large.keys, ∃ other ∈ large.keys, Path.IsAbove "." key other := by
    rintro ⟨key, hkey, other, hother, hbegins, hdiffer⟩
    revert hbegins hdiffer
    revert key other
    decide
  have hsep : "." ≠ "" := by decide
  have hroot : "" ∉ conflict.keys ∧ "" ∉ large.keys := by decide
  have hstart : (∀ key ∈ conflict.keys, ¬ ".".toList <+: key.toList) ∧
      ∀ key ∈ large.keys, ¬ ".".toList <+: key.toList := by decide
  have hconflict := (deflate_culprit hsep hroot.1 hstart.1).1 habove
  have hculprit := (deflate_culprit hsep hroot.2 hstart.2).2 hfree
  refine ⟨hconflict conflict (.refl _), hlarge, ?_⟩
  rcases hculprit _ hlarge with ⟨_, heq, -⟩ | ⟨path, index, front, n, heq, rfl, hpath, -, hrange⟩
  · cases heq
  · obtain ⟨rfl, -⟩ := Error.indexOutOfRange.inj heq
    exact ⟨front, n, hpath, hrange⟩

end FlatView

end FieldRules
