import FieldRules.Proofs.Flat.RoundTrip

/-!
Values that come back from their flat views unchanged or not at all. The paths have to say where they lead, and
no object may look like an array; then what is rebuilt from the flat view is the value, and where it is not the
view is refused.
-/

namespace FieldRules.Json

/-- Every object that holds something has a key that does not read as a position. -/
def Labelled (v : Json) : Prop :=
  ∀ members, (Json.object members).Within v → members ≠ [] → ∃ key ∈ Assoc.keys members, Path.isIndex key = false

theorem labelled_iff {v : Json} :
    v.Labelled ↔
      (∀ members, v = .object members → members ≠ [] → ∃ key ∈ Assoc.keys members, Path.isIndex key = false) ∧
      ∀ part ∈ v.parts, part.2.Labelled := by
  constructor
  · intro h
    refine ⟨?_, fun part hpart members hmembers => h members (within_iff.2 (.inr ⟨part, hpart, hmembers⟩))⟩
    rintro members rfl
    exact h members (.self _)
  · rintro ⟨hkeys, hparts⟩ members hwithin
    rcases within_iff.1 hwithin with heq | ⟨part, hpart, hwithin⟩
    · exact hkeys members heq.symm
    · exact hparts part hpart members hwithin

theorem Labelled.part {v : Json} (h : v.Labelled) {part : String × Json} (hpart : part ∈ v.parts) :
    part.2.Labelled :=
  (labelled_iff.1 h).2 part hpart

theorem Regular.labelled {v : Json} (h : v.Regular) : v.Labelled := by
  intro members hwithin hne
  obtain ⟨member, rest, rfl⟩ := List.exists_cons_of_ne_nil hne
  exact ⟨member.1, List.mem_cons_self, h.names _ hwithin _ List.mem_cons_self⟩

section Build

variable {separator path : String} {w : Json}

private theorem eq_of_build_object {members : List (String × Json)}
    (hlabel : ∃ key ∈ Assoc.keys members, Path.isIndex key = false)
    (hmembers : ∀ member ∈ members, ∀ path w, PathTree.build separator path member.2.tree = .ok w → w = member.2)
    (h : PathTree.build separator path (.branch (members.map fun member => (member.1, member.2.tree))) = .ok w) :
    w = .object members := by
  rcases PathTree.build_branch_eq_ok_iff.1 h with ⟨others, hothers, -, rfl⟩ | ⟨-, placed, hplaced, -⟩
  · rw [List.forall₂_map_left_iff] at hothers
    have hsame : List.Forall₂ (· = ·) members others := by
      refine (forall₂_and_mem hothers).imp ?_
      rintro member other ⟨hmember, hkey, hbuild⟩
      exact Prod.ext hkey (hmembers member hmember _ _ hbuild).symm
    rw [List.forall₂_eq_eq_eq] at hsame
    rw [hsame]
  · obtain ⟨key, hkey, hname⟩ := hlabel
    obtain ⟨value, hmember⟩ := Assoc.mem_keys_iff.1 hkey
    obtain ⟨entry, -, hsegment, -⟩ := exists_right_of_forall₂ hplaced (List.mem_map_of_mem hmember)
    replace hsegment : key = Path.ofIndex entry.1 := hsegment
    rw [hsegment, Path.isIndex_ofIndex] at hname
    cases hname

private theorem eq_of_build_array {items : List Json} (hne : items ≠ [])
    (hitems : ∀ item ∈ items, ∀ path w, PathTree.build separator path item.tree = .ok w → w = item)
    (h : PathTree.build separator path
      (.branch (items.zipIdx.map fun entry => (Path.ofIndex entry.2, entry.1.tree))) = .ok w) :
    w = .array items := by
  rcases PathTree.build_branch_eq_ok_iff.1 h with ⟨others, -, hnames, -⟩ | ⟨-, placed, hplaced, rfl⟩
  · obtain ⟨item, rest, rfl⟩ := List.exists_cons_of_ne_nil hne
    have hname := hnames (Path.ofIndex 0, item.tree) (by simp)
    rw [Path.isIndex_ofIndex] at hname
    cases hname
  · rw [List.forall₂_map_left_iff] at hplaced
    have hsame : List.Forall₂ (· = ·) (items.zipIdx.map Prod.swap) placed := by
      refine List.forall₂_map_left_iff.2 ((forall₂_and_mem hplaced).imp ?_)
      rintro entry other ⟨hentry, hsegment, -, hbuild⟩
      have hitem := hitems entry.1 (List.fst_mem_of_mem_zipIdx hentry) _ _ hbuild
      exact Prod.ext (Path.ofIndex_inj.1 hsegment) hitem.symm
    rw [List.forall₂_eq_eq_eq] at hsame
    rw [← hsame, PathTree.fill_zipIdx hne]

/-- The tree of a value with labelled objects stands for nothing else. -/
theorem Labelled.eq_of_build_tree {v : Json} (h : v.Labelled)
    (hbuild : PathTree.build separator path v.tree = .ok w) : w = v := by
  induction v using places_induction generalizing path w with
  | hterminal v hv =>
    rw [tree_of_terminal hv, PathTree.build] at hbuild
    exact (Except.ok.inj hbuild).symm
  | harray items hne ih =>
    have hcontainer : (Json.array items).isTerminal = false := by simpa [isTerminal] using hne
    rw [tree_of_container hcontainer, parts, List.map_map] at hbuild
    refine eq_of_build_array hne (fun item hitem path w => ih item hitem ?_) hbuild
    obtain ⟨position, hpart⟩ := exists_mem_parts hitem
    exact h.part hpart
  | hobject members hne ih =>
    have hcontainer : (Json.object members).isTerminal = false := by simpa [isTerminal] using hne
    rw [tree_of_container hcontainer, parts] at hbuild
    refine eq_of_build_object (h members (.self _) hne) (fun member hmember path w => ih member hmember ?_) hbuild
    exact h.part (v := .object members) hmember

end Build

section View

variable {separator : String} {v : Json} (h : v.Spelled separator) (hsep : separator ≠ "") (hv : v.WellFormed)
include h hsep hv

/-- What is rebuilt from a flat view is what its tree stands for. -/
theorem Spelled.deflate_flatten_eq_ok_iff_build {w : Json} :
    (v.flatten separator).deflate separator = .ok w ↔ PathTree.build separator "" v.tree = .ok w := by
  rw [FlatView.deflate_eq_ok_iff hsep]
  cases hterminal : v.isTerminal with
  | true =>
    have hentries := h.entries_flatten hv
    rw [leaves_of_terminal hterminal] at hentries
    have hroot : "" ∈ (v.flatten separator).keys := OrderedMap.mem_keys_iff.2 ⟨v, by simp [hentries]⟩
    simp [hentries, hroot, tree_of_terminal hterminal, PathTree.build]
  | false =>
    obtain ⟨hempty, htree⟩ := h.ofView_flatten hv hterminal
    have hsingle : (v.flatten separator).entries ≠ [("", w)] := fun hentries =>
      hempty (OrderedMap.mem_keys_iff.2 ⟨w, by simp [hentries]⟩)
    simp [hsingle, hempty, htree, tree_of_container hterminal]

/-- A value whose paths can be read back comes back exactly if its containers can be told from their segments. -/
theorem Spelled.deflate_flatten_iff_regular :
    (v.flatten separator).deflate separator = .ok v ↔ v.Regular := by
  rw [h.deflate_flatten_eq_ok_iff_build hsep hv, build_tree_eq_ok_iff]

/-- With labelled objects nothing else can come back. -/
theorem Spelled.eq_of_deflate_flatten (hlabelled : v.Labelled) {w : Json}
    (hw : (v.flatten separator).deflate separator = .ok w) : w = v :=
  hlabelled.eq_of_build_tree ((h.deflate_flatten_eq_ok_iff_build hsep hv).1 hw)

end View

end FieldRules.Json
