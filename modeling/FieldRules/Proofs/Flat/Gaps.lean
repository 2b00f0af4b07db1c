import FieldRules.Proofs.Flat.Labelled

/-!
The flat view of what a flat view is rebuilt to. It has the entries of that view again, each under its own key,
and beside them only the nulls with which the gaps of arrays were filled. A value that comes back from its own flat
view has therefore paths that say where they lead.
-/

namespace FieldRules

namespace Json

/-- What stands at a path in a value that carries content of terminals: one of these, a container on the way to
one, or the null in a gap. -/
theorem Carries.cases_of_follow? {w x : Json} {c : Content} (h : w.Carries c)
    (hterminal : ∀ path x, c path x → x.isTerminal = true) {path : List String} (hne : path ≠ [])
    (hx : w.follow? path = some x) :
    c path x ∨ (∃ segment, c.Continues path segment) ∨
      (x = .null ∧ ∃ front position last, path = front ++ [Path.ofIndex position] ∧ position ≤ last ∧
        ¬ c.Continues front (Path.ofIndex position) ∧ c.Continues front (Path.ofIndex last)) := by
  have hreached {other : List String} {value : Json} (hother : c other value) (hbegins : path <+: other) :
      c path x ∨ ∃ segment, c.Continues path segment := by
    rcases Content.eq_or_continues hother hbegins with rfl | hcontinues
    · obtain rfl : value = x := Option.some.inj ((h.value path value hother).symm.trans hx)
      exact .inl hother
    · exact .inr hcontinues
  rcases h.nothing_else path x hx with rfl | ⟨other, value, hother, hbegins | hbegins⟩ |
    ⟨hnull, front, position, rfl, last, hlast, hle⟩
  · exact absurd rfl hne
  · exact (hreached hother hbegins).imp_right .inl
  · obtain ⟨rest, rfl⟩ := hbegins
    rw [follow?_append, h.value other value hother, Option.bind_some] at hx
    obtain ⟨rfl, rfl⟩ := follow?_of_terminal (hterminal other value hother) hx
    exact .inl (by simpa using hother)
  · by_cases hcontinues : c.Continues front (Path.ofIndex position)
    · obtain ⟨other, value, hother, hbegins⟩ := hcontinues.exists_path
      exact (hreached hother hbegins).imp_right .inl
    · exact .inr (.inr ⟨hnull, front, position, last, rfl, hle, hcontinues, hlast⟩)

end Json

namespace PathTree

section Regular

variable {children : List (String × PathTree)}

theorem Grown.regular_object (h : Grown children) (hnames : ∀ child ∈ children, Path.isIndex child.1 = false)
    {members : List (String × Json)}
    (hmembers : List.Forall₂
      (fun child member => child.1 = member.1 ∧ member.2.WellFormed ∧ member.2.Regular) children members) :
    (Json.object members).WellFormed ∧ (Json.object members).Regular := by
  have hkeys : Assoc.keys children = Assoc.keys members :=
    map_eq_map_of_forall₂ hmembers fun child member hmember => hmember.1
  have hmember (member : String × Json) (hmem : member ∈ members) : member.2.WellFormed ∧ member.2.Regular := by
    obtain ⟨child, -, -, hmember⟩ := exists_left_of_forall₂ hmembers hmem
    exact hmember
  constructor
  · exact Json.wellFormed_object_iff.2 ⟨hkeys ▸ h.distinct.nodup_keys, fun member hmem => (hmember member hmem).1⟩
  · refine Json.regular_object_iff.2 ⟨fun key hkey => ?_, fun member hmem => (hmember member hmem).2⟩
    obtain ⟨child, hchild⟩ := Assoc.mem_keys_iff.1 (hkeys ▸ hkey)
    exact hnames _ hchild

theorem Grown.regular_array (h : Grown children) (hne : children ≠ []) {placed : List (Nat × Json)}
    (hplaced : List.Forall₂
      (fun child entry =>
        child.1 = Path.ofIndex entry.1 ∧ entry.1 ≤ 1048576 ∧ entry.2.WellFormed ∧ entry.2.Regular)
      children placed) : (Json.array (fill placed)).WellFormed ∧ (Json.array (fill placed)).Regular := by
  have hkeys : Assoc.keys children = placed.map fun entry => Path.ofIndex entry.1 :=
    map_eq_map_of_forall₂ hplaced fun child entry hentry => hentry.1
  have hentry (entry : Nat × Json) (hmem : entry ∈ placed) :
      entry.1 ≤ 1048576 ∧ entry.2.WellFormed ∧ entry.2.Regular := by
    obtain ⟨child, -, -, hentry⟩ := exists_left_of_forall₂ hplaced hmem
    exact hentry
  have hitem (item : Json) (hmem : item ∈ fill placed) : item.WellFormed ∧ item.Regular := by
    rcases mem_fill (nodup_of_keys_eq h.distinct.nodup_keys hkeys) hmem with rfl | ⟨entry, hplacedEntry, rfl⟩
    · exact ⟨Json.wellFormed_of_terminal rfl, Json.regular_of_terminal rfl⟩
    · exact (hentry entry hplacedEntry).2
  constructor
  · exact Json.wellFormed_array_iff.2 fun item hmem => (hitem item hmem).1
  · have hplacedNe : placed ≠ [] := by
      rintro rfl
      cases hplaced
      exact hne rfl
    obtain ⟨last, hlast, hlength, -⟩ := length_fill hplacedNe
    have hle := (hentry last hlast).1
    exact Json.regular_array_iff.2 ⟨by omega, fun item hmem => (hitem item hmem).2⟩

end Regular

/-- With terminals at its leaves a tree stands for a value whose containers can be told from their segments. -/
theorem regular_of_build_eq_ok {t : PathTree} (hsound : t.Sound)
    (hterminal : ∀ path x, t.content path x → x.isTerminal = true) {separator path : String} {w : Json}
    (h : build separator path t = .ok w) : w.WellFormed ∧ w.Regular := by
  induction t using branches_induction generalizing path w with
  | hleaf value =>
    obtain rfl : value = w := by simpa [build] using h
    have hvalue := hterminal [] value (content_leaf.2 ⟨rfl, rfl⟩)
    exact ⟨Json.wellFormed_of_terminal hvalue, Json.regular_of_terminal hvalue⟩
  | hbranch children ih =>
    have hgrown : Grown children := hsound
    have hchild {child : String × PathTree} (hchild : child ∈ children) {path : String} {v : Json}
        (hv : build separator path child.2 = .ok v) : v.WellFormed ∧ v.Regular := by
      refine ih child hchild (hgrown.sound_child hchild) (fun rest x hx => ?_) hv
      have hfind := (Assoc.find?_eq_some_iff hgrown.distinct.nodup_keys).2 hchild
      exact hterminal (child.1 :: rest) x (content_branch_cons.2 ⟨child.2, hfind, hx⟩)
    rcases build_branch_eq_ok_iff.1 h with ⟨members, hmembers, hnames, rfl⟩ | ⟨hne, placed, hplaced, rfl⟩
    · refine hgrown.regular_object hnames ((forall₂_and_mem hmembers).imp ?_)
      rintro child member ⟨hmem, hkey, hbuild⟩
      exact ⟨hkey, hchild hmem hbuild⟩
    · refine hgrown.regular_array hne ((forall₂_and_mem hplaced).imp ?_)
      rintro child entry ⟨hmem, hposition, hle, hbuild⟩
      exact ⟨hposition, hle, hchild hmem hbuild⟩

end PathTree

namespace FlatView

/-- An array has an item at a position that no key of the view addresses. -/
def Gap (separator : String) (view : FlatView) (w : Json) (path : List String) (position : Nat) : Prop :=
  (∃ items, w.follow? path = some (.array items) ∧ position < items.length) ∧
    ∀ key ∈ view.keys, ¬ path ++ [Path.ofIndex position] <+: Path.segments separator key

section Deflate

variable {separator : String} {view : FlatView} {w : Json} {path : List String}

theorem continues_content_iff {segment : String} :
    (view.content separator).Continues path segment ↔
      ∃ key ∈ view.keys, path ++ [segment] <+: Path.segments separator key := by
  constructor
  · rintro ⟨rest, value, key, hentry, hsegments⟩
    exact ⟨key, Assoc.mem_keys_of_mem hentry, rest, by simp [hsegments]⟩
  · rintro ⟨key, hkey, rest, hrest⟩
    obtain ⟨value, hentry⟩ := OrderedMap.mem_keys_iff.1 hkey
    exact ⟨rest, value, key, hentry, by simp [← hrest]⟩

theorem not_gap_of_terminal (hw : w.isTerminal = true) (position : Nat) :
    ¬ Gap separator view w path position := by
  rintro ⟨⟨items, hitems, hlt⟩, -⟩
  obtain ⟨-, rfl⟩ := Json.follow?_of_terminal hw hitems
  obtain rfl : items = [] := by simpa [Json.isTerminal] using hw
  simp at hlt

theorem isTerminal_of_content (separator : String)
    (hterminal : ∀ entry ∈ view.entries, entry.2.isTerminal = true) :
    ∀ path x, view.content separator path x → x.isTerminal = true := by
  rintro path x ⟨key, hentry, -⟩
  exact hterminal _ hentry

section Carries

variable (hcarries : w.Carries (view.content separator))
  (hterminal : ∀ entry ∈ view.entries, entry.2.isTerminal = true)
include hcarries hterminal

/-- In a gap there is null, and behind it an item of the array that a key addresses. -/
theorem Gap.null {position : Nat} (h : Gap separator view w path position) :
    w.follow? (path ++ [Path.ofIndex position]) = some .null ∧
      ∃ last, (view.content separator).Continues path (Path.ofIndex last) := by
  obtain ⟨⟨items, hitems, hlt⟩, hkeys⟩ := h
  have hitem : w.follow? (path ++ [Path.ofIndex position]) = some items[position] := by
    simp [Json.follow?_append, hitems, Json.follow?_cons, hlt]
  have hcontent := isTerminal_of_content separator hterminal
  have hfree {key : String} {value : Json} {rest : List String} (hentry : (key, value) ∈ view.entries) :
      Path.segments separator key ≠ path ++ [Path.ofIndex position] ++ rest :=
    fun hsegments => hkeys key (Assoc.mem_keys_of_mem hentry) ⟨rest, hsegments.symm⟩
  rcases hcarries.cases_of_follow? hcontent (by simp) hitem with ⟨key, hentry, hsegments⟩ |
    ⟨segment, rest, value, key, hentry, hsegments⟩ | ⟨hnull, front, other, last, heq, -, -, hlast⟩
  · exact absurd (hsegments.trans (List.append_nil _).symm) (hfree hentry)
  · exact absurd hsegments (hfree hentry)
  · obtain ⟨rfl, -⟩ := List.append_singleton_inj.1 heq
    exact ⟨hnull ▸ hitem, last, hlast⟩

omit hterminal in
theorem isTerminal_of_carries_eq_false (hne : view.entries ≠ []) : w.isTerminal = false := by
  obtain ⟨⟨key, value⟩, rest, hentries⟩ := List.exists_cons_of_ne_nil hne
  have hentry : (key, value) ∈ view.entries := by simp [hentries]
  by_contra hw
  have hvalue := hcarries.value _ value ⟨key, hentry, rfl⟩
  exact Path.segments_ne_nil separator key (Json.follow?_of_terminal (by simpa using hw) hvalue).1

/-- The terminals of what a view without an empty key is rebuilt to. -/
theorem mem_leaves_iff_of_carries (hv : w.WellFormed) (hcontainer : w.isTerminal = false) {x : Json} :
    (path, x) ∈ w.tree.leaves ↔ view.content separator path x ∨
      x = .null ∧ ∃ front position, path = front ++ [Path.ofIndex position] ∧
        Gap separator view w front position := by
  have hcontent := isTerminal_of_content separator hterminal
  rw [Json.mem_leaves_iff hv]
  constructor
  · rintro ⟨hfollow, hx⟩
    have hpath : path ≠ [] := by
      rintro rfl
      obtain rfl : w = x := Option.some.inj hfollow
      rw [hcontainer] at hx
      cases hx
    rcases hcarries.cases_of_follow? hcontent hpath hfollow with hvalue | ⟨segment, rest, value, hvalue⟩ |
      ⟨hnull, front, position, last, rfl, hle, hfree, hlast⟩
    · exact .inl hvalue
    · have hbelow := hcarries.value _ _ hvalue
      rw [Json.follow?_append, hfollow, Option.bind_some] at hbelow
      cases (Json.follow?_of_terminal hx hbelow).1
    · obtain ⟨items, bound, hitems, hlength, -, hbound, -⟩ := hcarries.array front ⟨last, hlast⟩
      have hlt := hbound last hlast
      refine .inr ⟨hnull, front, position, rfl, ⟨items, hitems, by omega⟩, fun key hkey hbegins => hfree ?_⟩
      exact continues_content_iff.2 ⟨key, hkey, hbegins⟩
  · rintro (hvalue | ⟨rfl, front, position, rfl, hgap⟩)
    · exact ⟨hcarries.value path x hvalue, hcontent path x hvalue⟩
    · exact ⟨(hgap.null hcarries hterminal).1, rfl⟩

variable (hsep : separator ≠ "") (hdigit : ∀ c ∈ separator.toList, c.isDigit = false)
include hsep hdigit

theorem Gap.segments_ofSegments {position : Nat} (hgap : Gap separator view w path position) :
    let parts := path ++ [Path.ofIndex position]
    Path.segments separator (Path.ofSegments separator parts) = parts := by
  obtain ⟨-, last, hlast⟩ := hgap.null hcarries hterminal
  obtain ⟨key, -, hbegins⟩ := continues_content_iff.1 hlast
  exact Path.segments_ofSegments_of_prefix hsep hbegins (Json.avoids_ofIndex hdigit position)

/-- The segments of every terminal's path are found again in the path that they make. -/
theorem segments_ofSegments_of_mem_leaves (hv : w.WellFormed) (hcontainer : w.isTerminal = false)
    {leaf : List String × Json} (hleaf : leaf ∈ w.tree.leaves) :
    Path.segments separator (Path.ofSegments separator leaf.1) = leaf.1 := by
  rcases (mem_leaves_iff_of_carries hcarries hterminal hv hcontainer).1 hleaf with ⟨key, -, hsegments⟩ |
    ⟨-, front, position, hpath, hgap⟩
  · rw [← hsegments, Path.ofSegments_segments hsep]
  · rw [hpath]
    exact hgap.segments_ofSegments hcarries hterminal hsep hdigit

end Carries

variable (hsep : separator ≠ "") (hterminal : ∀ entry ∈ view.entries, entry.2.isTerminal = true)
  (h : view.deflate separator = .ok w)
include hsep hterminal h

theorem regular_of_deflate_eq_ok : w.WellFormed ∧ w.Regular := by
  rcases (deflate_eq_ok_iff hsep).1 h with hentries | ⟨-, children, htree, hbuild⟩
  · have hw : w.isTerminal = true := hterminal ("", w) (by simp [hentries])
    exact ⟨Json.wellFormed_of_terminal hw, Json.regular_of_terminal hw⟩
  · obtain ⟨hgrown, hcontent⟩ := content_of_ofView_eq_ok htree
    refine PathTree.regular_of_build_eq_ok (t := .branch children) hgrown ?_ hbuild
    rw [hcontent]
    exact isTerminal_of_content separator hterminal

variable (hdigit : ∀ c ∈ separator.toList, c.isDigit = false)
  (hfront : ∀ key ∈ view.keys, ¬ separator.toList <+: key.toList) (hroot : "" ∉ view.keys)
  (hcontainer : w.isTerminal = false)
include hdigit hfront hroot hcontainer

omit hdigit in
theorem ne_cons_empty_of_mem_leaves {leaf : List String × Json} (hleaf : leaf ∈ w.tree.leaves)
    (rest : List String) : leaf.1 ≠ "" :: rest := by
  have hcarries := carries_of_deflate_eq_ok hsep hroot h
  have hv := (regular_of_deflate_eq_ok hsep hterminal h).1
  have hkeys {key : String} (hkey : key ∈ view.keys) (rest : List String) :
      Path.segments separator key ≠ "" :: rest := by
    have hne : key ≠ "" := fun heq => hroot (heq ▸ hkey)
    exact fun heq => hfront key hkey ((Path.exists_segments_eq_cons_empty_iff hsep hne).1 ⟨rest, heq⟩)
  intro heq
  rcases (mem_leaves_iff_of_carries hcarries hterminal hv hcontainer).1 hleaf with ⟨key, hentry, hsegments⟩ |
    ⟨-, front, position, hpath, hgap⟩
  · exact hkeys (Assoc.mem_keys_of_mem hentry) rest (hsegments.trans heq)
  · obtain ⟨-, last, hlast⟩ := hgap.null hcarries hterminal
    obtain ⟨key, hkey, tail, htail⟩ := continues_content_iff.1 hlast
    rw [hpath] at heq
    cases front with
    | nil => exact Path.ofIndex_ne_empty position (List.cons.inj heq).1
    | cons segment front =>
      obtain rfl : segment = "" := (List.cons.inj heq).1
      exact hkeys hkey _ htail.symm

/-- What a view is rebuilt to can be read off its paths. -/
theorem spelled_of_deflate_eq_ok : w.Spelled separator := by
  have hcarries := carries_of_deflate_eq_ok hsep hroot h
  have hv := (regular_of_deflate_eq_ok hsep hterminal h).1
  intro leaf hleaf hne
  have hhead := ne_cons_empty_of_mem_leaves hsep hterminal h hfront hroot hcontainer hleaf
  have hfound := segments_ofSegments_of_mem_leaves hcarries hterminal hsep hdigit hv hcontainer hleaf
  rw [Path.descend_empty_eq_ofSegments hhead]
  refine ⟨fun hempty => ?_, hfound⟩
  rw [hempty, Path.segments_empty] at hfound
  exact hhead [] hfound.symm

/-- The entries of the flat view are those of the view and the nulls of the gaps. -/
theorem mem_flatten_iff {entry : String × Json} :
    entry ∈ (w.flatten separator).entries ↔ entry ∈ view.entries ∨
      ∃ path position, Gap separator view w path position ∧
        entry = (Path.ofSegments separator (path ++ [Path.ofIndex position]), .null) := by
  have hcarries := carries_of_deflate_eq_ok hsep hroot h
  have hv := (regular_of_deflate_eq_ok hsep hterminal h).1
  have hleaves (path : List String) (x : Json) : (path, x) ∈ w.tree.leaves ↔ _ :=
    mem_leaves_iff_of_carries hcarries hterminal hv hcontainer
  have hspelled := spelled_of_deflate_eq_ok hsep hterminal h hdigit hfront hroot hcontainer
  have hentries : (w.flatten separator).entries =
      w.tree.leaves.map fun leaf => (Path.ofSegments separator leaf.1, leaf.2) := by
    rw [hspelled.entries_flatten hv]
    refine List.map_congr_left fun leaf hleaf => ?_
    have hhead := ne_cons_empty_of_mem_leaves hsep hterminal h hfront hroot hcontainer hleaf
    rw [Path.descend_empty_eq_ofSegments hhead]
  rw [hentries, List.mem_map]
  constructor
  · rintro ⟨⟨path, x⟩, hleaf, rfl⟩
    rcases (hleaves path x).1 hleaf with ⟨key, hentry, rfl⟩ | ⟨rfl, front, position, rfl, hgap⟩
    · rw [Path.ofSegments_segments hsep]
      exact .inl hentry
    · exact .inr ⟨front, position, hgap, rfl⟩
  · rintro (hentry | ⟨front, position, hgap, rfl⟩)
    · refine ⟨(Path.segments separator entry.1, entry.2), (hleaves _ _).2 (.inl ⟨entry.1, hentry, rfl⟩), ?_⟩
      rw [Path.ofSegments_segments hsep]
    · exact ⟨_, (hleaves _ _).2 (.inr ⟨rfl, front, position, rfl, hgap⟩), rfl⟩

end Deflate

/-- The flat view of what a view of terminals is rebuilt to has the entries of that view and, for every item of an
array that no key addresses, null under a key of its own. So it is rebuilt to the same value. -/
theorem flatten_deflate {separator : String} (hsep : separator ≠ "")
    (hdigit : ∀ c ∈ separator.toList, c.isDigit = false) {view : FlatView} (hne : view.entries ≠ [])
    (hterminal : ∀ entry ∈ view.entries, entry.2.isTerminal = true)
    (hfront : ∀ key ∈ view.keys, ¬ separator.toList <+: key.toList) {w : Json}
    (h : view.deflate separator = .ok w) :
    (∀ entry, entry ∈ (w.flatten separator).entries ↔ entry ∈ view.entries ∨
      ∃ path position, Gap separator view w path position ∧
        entry = (Path.ofSegments separator (path ++ [Path.ofIndex position]), .null)) ∧
    (∀ path position, Gap separator view w path position →
      let key := Path.ofSegments separator (path ++ [Path.ofIndex position])
      key ∉ view.keys ∧ Path.segments separator key = path ++ [Path.ofIndex position]) ∧
    (w.flatten separator).deflate separator = .ok w := by
  by_cases hroot : "" ∈ view.keys
  · -- A view with the empty key has no other.
    obtain hentries | ⟨hempty, -⟩ := (deflate_eq_ok_iff hsep).1 h
    · have hw : w.isTerminal = true := hterminal ("", w) (by simp [hentries])
      have hflatten : (w.flatten separator).entries = [("", w)] := by
        rw [Json.flatten, Json.flattenBelow, Json.terminals_of_terminal hw, OrderedMap.entries_ofList (by simp)]
      refine ⟨?_, ?_, (deflate_eq_ok_iff hsep).2 (.inl hflatten)⟩
      · simp [hflatten, hentries, not_gap_of_terminal hw]
      · exact fun path position hgap => absurd hgap (not_gap_of_terminal hw position)
    · exact absurd hroot hempty
  · obtain ⟨hv, hregular⟩ := regular_of_deflate_eq_ok hsep hterminal h
    have hcarries := carries_of_deflate_eq_ok hsep hroot h
    have hcontainer := isTerminal_of_carries_eq_false hcarries hne
    have hspelled := spelled_of_deflate_eq_ok hsep hterminal h hdigit hfront hroot hcontainer
    refine ⟨fun entry => mem_flatten_iff hsep hterminal h hdigit hfront hroot hcontainer, ?_,
      (hspelled.deflate_flatten_iff_regular hsep hv).2 hregular⟩
    intro path position hgap key
    have hsegments := hgap.segments_ofSegments hcarries hterminal hsep hdigit
    exact ⟨fun hkey => hgap.2 key hkey (hsegments ▸ List.prefix_rfl), hsegments⟩

/-- A gap below an empty segment, and a segment that begins with a part of the separator. -/
theorem flatten_deflate_inner :
    let view : FlatView := .ofList [("a::::2", .bool true), ("b:::c", .array []), ("a::::0", .string "x")]
    let w : Json := .object [
      ("a", .object [("", .array [.string "x", .null, .bool true])]), ("b", .object [(":c", .array [])])]
    view.deflate "::" = .ok w ∧ Gap "::" view w ["a", ""] 1 ∧
      ("a::::1", .null) ∈ (w.flatten "::").entries ∧ "a::::1" ∉ view.keys ∧
      (w.flatten "::").deflate "::" = .ok w := by
  intro view w
  have h : view.deflate "::" = .ok w := by decide +kernel
  have hgap : Gap "::" view w ["a", ""] 1 := by
    refine ⟨⟨[.string "x", .null, .bool true], by decide +kernel, by decide⟩, ?_⟩
    decide +kernel
  obtain ⟨hentries, hgaps, hagain⟩ := flatten_deflate (by decide) (by simp) (by decide) (by decide) (by decide) h
  exact ⟨h, hgap, (hentries _).2 (.inr ⟨_, 1, hgap, rfl⟩), (hgaps _ 1 hgap).1, hagain⟩

end FlatView

namespace Json

variable {separator : String} {v : Json} (hsep : separator ≠ "")
  (hdigit : ∀ c ∈ separator.toList, c.isDigit = false) (hv : v.WellFormed)
include hsep hdigit hv

theorem spelled_of_deflate_flatten (h : (v.flatten separator).deflate separator = .ok v) :
    v.Spelled separator := by
  cases hcontainer : v.isTerminal with
  | true =>
    intro leaf hleaf hne
    rw [leaves_of_terminal hcontainer, List.mem_singleton] at hleaf
    exact absurd (by rw [hleaf]) hne
  | false =>
    have hterminal : ∀ entry ∈ (v.flatten separator).entries, entry.2.isTerminal = true :=
      fun entry hentry => isTerminal_of_mem_flatten hentry
    obtain hentries | ⟨hroot, -⟩ := (FlatView.deflate_eq_ok_iff hsep).1 h
    · have hv := hterminal ("", v) (by simp [hentries])
      rw [hcontainer] at hv
      cases hv
    have hcarries := FlatView.carries_of_deflate_eq_ok hsep hroot h
    -- A key with the separator in front would come from a path that is not found again.
    have hfront : ∀ key ∈ (v.flatten separator).keys, ¬ separator.toList <+: key.toList := by
      intro key hkey hbegins
      have hne : key ≠ "" := fun heq => hroot (heq ▸ hkey)
      obtain ⟨rest, hrest⟩ := (Path.exists_segments_eq_cons_empty_iff hsep hne).2 hbegins
      obtain ⟨value, hentry⟩ := OrderedMap.mem_keys_iff.1 hkey
      obtain ⟨leaf, hleaf, hpath, -⟩ := exists_leaf_of_mem_flatten hentry
      replace hpath : Path.descend separator "" leaf.1 = key := hpath
      have hfound :=
        FlatView.segments_ofSegments_of_mem_leaves hcarries hterminal hsep hdigit hv hcontainer hleaf
      exact Path.segments_descend_empty_ne hsep hfound (hpath ▸ hne) rest (hpath ▸ hrest)
    exact FlatView.spelled_of_deflate_eq_ok hsep hterminal h hdigit hfront hroot hcontainer

/-- Whatever its keys, a value comes back from its flat view exactly if its paths say where they lead and its
containers can be told from their segments. -/
theorem deflate_flatten_eq_ok_self_iff :
    (v.flatten separator).deflate separator = .ok v ↔ v.Spelled separator ∧ v.Regular := by
  constructor
  · intro h
    have hspelled := spelled_of_deflate_flatten hsep hdigit hv h
    exact ⟨hspelled, (hspelled.deflate_flatten_iff_regular hsep hv).1 h⟩
  · exact fun ⟨hspelled, hregular⟩ => (hspelled.deflate_flatten_iff_regular hsep hv).2 hregular

end Json

end FieldRules
