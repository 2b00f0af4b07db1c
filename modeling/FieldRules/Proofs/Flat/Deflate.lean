import FieldRules.Proofs.Flat.Build
import FieldRules.Proofs.Flat.Path
import Mathlib.Data.List.Pairwise

/-!
Which flat views have a value, and which value that is: the unambiguous ones, each the value that holds
just what the view says, whatever the order of its entries.
-/

namespace FieldRules.FlatView

variable {separator : String} {view other : FlatView}

theorem entries_eq_singleton_iff {value : Json} :
    view.entries = [("", value)] ↔ view.get? "" = some value ∧ view.size = 1 := by
  rw [OrderedMap.get?_eq_some_iff, OrderedMap.size, List.length_eq_one_iff]
  constructor
  · intro h
    simp [h]
  · rintro ⟨hmem, entry, hentry⟩
    rw [hentry, List.mem_singleton] at hmem
    rw [hentry, hmem]

/-- A view is rebuilt either as the value under the empty key that it consists of, or without an empty
key through the tree of its segments. -/
theorem deflate_eq_ok_iff (hsep : separator ≠ "") {w : Json} :
    view.deflate separator = .ok w ↔
      view.entries = [("", w)] ∨
      ("" ∉ view.keys ∧ ∃ children, PathTree.ofView separator view = .ok children ∧
        PathTree.build separator "" (.branch children) = .ok w) := by
  rw [deflate, if_neg (by simpa using hsep), entries_eq_singleton_iff, ← OrderedMap.get?_eq_none_iff]
  cases hroot : view.get? "" with
  | none => simp [bind_eq_ok_iff]
  | some value =>
    by_cases hsize : view.size = 1
    · simp [hsize]
    · simp [hsize]

/-- The order of the entries is no part of what a view says. -/
theorem content_eq_of_perm (hperm : other.entries.Perm view.entries) :
    other.content separator = view.content separator := by
  funext path value
  simp only [content, hperm.mem_iff]

private theorem segments_entries_ne_nil (separator : String) (view : FlatView) :
    ∀ entry ∈ view.entries.map fun entry => (Path.segments separator entry.1, entry.2), entry.1 ≠ [] := by
  intro entry hentry
  obtain ⟨⟨key, value⟩, -, rfl⟩ := List.mem_map.1 hentry
  exact Path.segments_ne_nil separator key

/-- A view's tree holds what the view says. -/
theorem content_of_ofView_eq_ok {children : List (String × PathTree)}
    (h : PathTree.ofView separator view = .ok children) :
    PathTree.Grown children ∧ (PathTree.branch children).content = view.content separator := by
  rw [PathTree.ofView_eq_addAll] at h
  obtain ⟨hgrown, hcontent⟩ := PathTree.addAll_spec .nil (segments_entries_ne_nil separator view) h
  refine ⟨hgrown, ?_⟩
  funext path value
  rw [hcontent]
  simp [content, and_comm]

/-- The keys of a view find their places in a tree exactly if none of them goes on to another one. -/
theorem exists_ofView_eq_ok_iff (hsep : separator ≠ "") :
    (∃ children, PathTree.ofView separator view = .ok children) ↔
      ∀ path value other rest, view.content separator path value → view.content separator other rest →
        path <+: other → path = other := by
  rw [PathTree.ofView_eq_addAll,
    PathTree.exists_addAll_eq_ok_iff .nil (segments_entries_ne_nil separator view), List.pairwise_map]
  constructor
  · rintro ⟨hpairwise, -⟩ path value other rest ⟨key, hmem, rfl⟩ ⟨key', hmem', rfl⟩ hbegins
    by_contra hdiffer
    have hsymm : Std.Symm fun a b : String × Json =>
        ¬ PathTree.Conflicts (Path.segments separator a.1) (Path.segments separator b.1) :=
      ⟨fun a b h hconflict => h hconflict.symm⟩
    refine hpairwise.forall hmem hmem' ?_ (.inl hbegins)
    intro heq
    exact hdiffer (congrArg (fun entry => Path.segments separator entry.1) heq)
  · intro hfree
    refine ⟨?_, by simp⟩
    have hnodup : view.entries.Nodup := .of_map Prod.fst view.distinct
    refine hnodup.pairwise_of_forall_ne ?_
    rintro ⟨key, value⟩ hmem ⟨key', value'⟩ hmem' hdiffer hconflict
    have hsegments : Path.segments separator key = Path.segments separator key' := by
      rcases hconflict with hbegins | hbegins
      · exact hfree _ value _ value' ⟨key, hmem, rfl⟩ ⟨key', hmem', rfl⟩ hbegins
      · exact (hfree _ value' _ value ⟨key', hmem', rfl⟩ ⟨key, hmem, rfl⟩ hbegins).symm
    obtain rfl : key = key' := (Path.segments_inj hsep).1 hsegments
    have hvalue := (OrderedMap.get?_eq_some_iff.2 hmem).symm.trans (OrderedMap.get?_eq_some_iff.2 hmem')
    exact hdiffer (by rw [Option.some.inj hvalue])

/-- Without an empty key, a view has a value exactly if what it says is unambiguous. -/
theorem exists_deflate_eq_ok_iff (hsep : separator ≠ "") (hroot : "" ∉ view.keys) :
    (∃ w, view.deflate separator = .ok w) ↔ (view.content separator).Unambiguous := by
  have hentries (w : Json) : view.entries ≠ [("", w)] := by
    intro h
    exact hroot (OrderedMap.mem_keys_iff.2 ⟨w, by simp [h]⟩)
  simp only [deflate_eq_ok_iff hsep, hentries, hroot, false_or, not_false_eq_true, true_and]
  constructor
  · rintro ⟨w, children, htree, hbuild⟩
    obtain ⟨hgrown, hcontent⟩ := content_of_ofView_eq_ok htree
    rw [← hcontent]
    exact (PathTree.exists_build_eq_ok_iff (t := .branch children) hgrown separator "").1 ⟨w, hbuild⟩
  · intro hunambiguous
    obtain ⟨children, htree⟩ := (exists_ofView_eq_ok_iff hsep).2 hunambiguous.no_conflict
    obtain ⟨hgrown, hcontent⟩ := content_of_ofView_eq_ok htree
    rw [← hcontent] at hunambiguous
    obtain ⟨w, hbuild⟩ :=
      (PathTree.exists_build_eq_ok_iff (t := .branch children) hgrown separator "").2 hunambiguous
    exact ⟨w, children, htree, hbuild⟩

/-- The value of a view without an empty key holds just what the view says. -/
theorem carries_of_deflate_eq_ok (hsep : separator ≠ "") (hroot : "" ∉ view.keys) {w : Json}
    (h : view.deflate separator = .ok w) : w.Carries (view.content separator) := by
  rcases (deflate_eq_ok_iff hsep).1 h with hentries | ⟨-, children, htree, hbuild⟩
  · exact absurd (OrderedMap.mem_keys_iff.2 ⟨w, by simp [hentries]⟩) hroot
  · obtain ⟨hgrown, hcontent⟩ := content_of_ofView_eq_ok htree
    rw [← hcontent]
    exact PathTree.carries_of_build_eq_ok (t := .branch children) hgrown hbuild

/-- A view that has a value keeps it, up to the order of members, when its entries change places. -/
theorem exists_deflate_of_perm (hsep : separator ≠ "") (hperm : other.entries.Perm view.entries) {w : Json}
    (h : view.deflate separator = .ok w) : ∃ w', other.deflate separator = .ok w' ∧ w.Reordered w' := by
  rcases (deflate_eq_ok_iff hsep).1 h with hentries | ⟨hroot, -⟩
  · rw [hentries] at hperm
    exact ⟨w, (deflate_eq_ok_iff hsep).2 (.inl (List.perm_singleton.1 hperm)), .refl w⟩
  · have hkeys : view.keys.Perm other.keys := (hperm.map Prod.fst).symm
    have hroot' : "" ∉ other.keys := fun hmem => hroot (hkeys.mem_iff.2 hmem)
    have hunambiguous := (exists_deflate_eq_ok_iff hsep hroot).1 ⟨w, h⟩
    rw [← content_eq_of_perm hperm] at hunambiguous
    obtain ⟨w', h'⟩ := (exists_deflate_eq_ok_iff hsep hroot').2 hunambiguous
    have hcarries := carries_of_deflate_eq_ok hsep hroot h
    rw [← content_eq_of_perm hperm] at hcarries
    exact ⟨w', h', hcarries.reordered (carries_of_deflate_eq_ok hsep hroot' h')⟩

/-- A view has a value exactly if it is a single entry under the empty key, which is then its value, or
has no empty key and is unambiguous; then its value holds just what the view says, and views that say
the same in another order have the same value up to the order of members. -/
theorem deflate_spec (hsep : separator ≠ "") (view : FlatView) :
    ((∃ w, view.deflate separator = .ok w) ↔
      (∃ x, view.entries = [("", x)]) ∨ ("" ∉ view.keys ∧ (view.content separator).Unambiguous)) ∧
    (∀ x, view.entries = [("", x)] → view.deflate separator = .ok x) ∧
    ("" ∉ view.keys → ∀ w, view.deflate separator = .ok w → w.Carries (view.content separator)) ∧
    ∀ other : FlatView, other.entries.Perm view.entries →
      ((∃ e, view.deflate separator = .error e) ∧ ∃ e, other.deflate separator = .error e) ∨
      ∃ w w', view.deflate separator = .ok w ∧ other.deflate separator = .ok w' ∧ w.Reordered w' := by
  refine ⟨⟨?_, ?_⟩, ?_, fun hroot w => carries_of_deflate_eq_ok hsep hroot, ?_⟩
  · rintro ⟨w, h⟩
    rcases (deflate_eq_ok_iff hsep).1 h with hentries | ⟨hroot, -⟩
    · exact .inl ⟨w, hentries⟩
    · exact .inr ⟨hroot, (exists_deflate_eq_ok_iff hsep hroot).1 ⟨w, h⟩⟩
  · rintro (⟨x, hentries⟩ | ⟨hroot, hunambiguous⟩)
    · exact ⟨x, (deflate_eq_ok_iff hsep).2 (.inl hentries)⟩
    · exact (exists_deflate_eq_ok_iff hsep hroot).2 hunambiguous
  · exact fun x hentries => (deflate_eq_ok_iff hsep).2 (.inl hentries)
  · intro other hperm
    cases h : view.deflate separator with
    | ok w =>
      obtain ⟨w', h', hsame⟩ := exists_deflate_of_perm hsep hperm h
      exact .inr ⟨w, w', rfl, h', hsame⟩
    | error e =>
      cases h' : other.deflate separator with
      | error e' => exact .inl ⟨⟨e, rfl⟩, e', rfl⟩
      | ok w' =>
        obtain ⟨w, hw, -⟩ := exists_deflate_of_perm hsep hperm.symm h'
        rw [h] at hw
        cases hw

/-- Positions out of order and with a gap between them, beside a name. -/
theorem deflate_spec_gap :
    let view : FlatView := .ofList [("a.2", .bool true), ("b", .null), ("a.0", .string "x")]
    let w : Json := .object [("a", .array [.string "x", .null, .bool true]), ("b", .null)]
    view.deflate "." = .ok w ∧ w.Carries (view.content ".") := by
  intro view w
  have h : view.deflate "." = .ok w := by rfl
  have hroot : "" ∉ view.keys := by decide
  exact ⟨h, (@deflate_spec "." (by decide) view).2.2.1 hroot w h⟩

end FieldRules.FlatView
