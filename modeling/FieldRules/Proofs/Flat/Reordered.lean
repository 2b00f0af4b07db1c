import FieldRules.Proofs.Flat.RoundTrip
import Mathlib.Data.List.Perm.Basic

/-!
The flat views of values that differ in the order of members. Every terminal has the same path in both values, so
the views hold the same entries, and these differ in their order at most.
-/

namespace FieldRules.Json

variable {v w : Json} {items others : List Json}

theorem forall₂_of_reorderedItems (h : ReorderedItems items others) : List.Forall₂ Reordered items others := by
  induction items generalizing others with
  | nil =>
    cases h
    exact .nil
  | cons item rest ih =>
    cases h with
    | cons hitem hrest => exact .cons hitem (ih hrest)

theorem forall₂_of_reorderedMembers {members others : List (String × Json)} (h : ReorderedMembers members others) :
    List.Forall₂ (fun member other => member.1 = other.1 ∧ member.2.Reordered other.2) members others := by
  induction members generalizing others with
  | nil =>
    cases h
    exact .nil
  | cons member rest ih =>
    cases h with
    | cons hvalue hrest => exact .cons ⟨rfl, hvalue⟩ (ih hrest)

/-- There is nothing to reorder in a terminal. -/
theorem Reordered.eq_of_terminal (h : v.Reordered w) (hv : v.isTerminal = true) : w = v := by
  cases h with
  | refl => rfl
  | array hitems =>
    obtain rfl := List.isEmpty_iff.1 hv
    cases hitems
    rfl
  | object hmembers hperm =>
    obtain rfl := List.isEmpty_iff.1 hv
    cases hmembers
    rw [List.nil_perm.1 hperm]

theorem Reordered.isTerminal_eq (h : v.Reordered w) : w.isTerminal = v.isTerminal := by
  cases h with
  | refl => rfl
  | array hitems => cases hitems <;> rfl
  | object hmembers hperm =>
    rw [isTerminal, isTerminal, ← hperm.isEmpty_eq]
    cases hmembers <;> rfl

private theorem forall₂_zipIdx {R : Json → Json → Prop} (h : List.Forall₂ R items others) (position : Nat) :
    List.Forall₂ (fun entry other => entry.2 = other.2 ∧ R entry.1 other.1) (items.zipIdx position)
      (others.zipIdx position) := by
  induction h generalizing position with
  | nil => exact .nil
  | cons hfirst _ ih => exact .cons ⟨rfl, hfirst⟩ (ih (position + 1))

/-- Part by part values that differ in the order of members differ in it below the same segments, and then in the
order of the parts. -/
theorem Reordered.exists_parts (h : v.Reordered w) :
    ∃ middle, List.Forall₂ (fun part other => part.1 = other.1 ∧ part.2.Reordered other.2) v.parts middle ∧
      middle.Perm w.parts := by
  cases h with
  | refl => exact ⟨v.parts, List.forall₂_same.2 fun _ _ => ⟨rfl, .refl _⟩, .refl _⟩
  | array hitems =>
    refine ⟨_, ?_, .refl _⟩
    rw [parts, parts, List.forall₂_map_left_iff, List.forall₂_map_right_iff]
    refine (forall₂_zipIdx (forall₂_of_reorderedItems hitems) 0).imp fun entry other h => ?_
    exact ⟨congrArg Path.ofIndex h.1, h.2⟩
  | object hmembers hperm => exact ⟨_, forall₂_of_reorderedMembers hmembers, hperm⟩

private theorem perm_flatMap_of_forall₂ {α β γ : Type} {f : α → List γ} {g : β → List γ} {xs : List α} {ys : List β}
    (h : List.Forall₂ (fun x y => (f x).Perm (g y)) xs ys) : (xs.flatMap f).Perm (ys.flatMap g) := by
  induction h with
  | nil => exact .refl _
  | cons hfirst _ ih => simpa using hfirst.append ih

/-- The terminals of values that differ in the order of members are the same below every path. -/
theorem Reordered.perm_terminals (h : v.Reordered w) (separator path : String) :
    (v.terminals separator path).Perm (w.terminals separator path) := by
  induction v using parts_induction generalizing w path with
  | hterminal v hv => rw [h.eq_of_terminal hv]
  | hcontainer v hv ih =>
    rw [terminals_of_container hv, terminals_of_container (h.isTerminal_eq.trans hv)]
    obtain ⟨middle, hmiddle, hperm⟩ := h.exists_parts
    refine .trans (perm_flatMap_of_forall₂ ?_) (hperm.flatMap_right _)
    refine (forall₂_and_mem hmiddle).imp fun part other ⟨hpart, hsegment, hvalue⟩ => ?_
    rw [hsegment]
    exact ih part hpart hvalue _

/-- A view that loses no terminal has the same entries if members are reordered. -/
theorem Reordered.perm_entries_flatten {separator : String} (h : v.Reordered w) (hv : v.WellFormed)
    (hspelled : v.Spelled separator) : (v.flatten separator).entries.Perm (w.flatten separator).entries := by
  have hentries : (v.flatten separator).entries = v.terminals separator "" := by
    rw [hspelled.entries_flatten hv, terminals_eq]
  have hperm := h.perm_terminals separator ""
  have hnodup : (Assoc.keys (w.terminals separator "")).Nodup := by
    rw [Assoc.keys, ← (hperm.map Prod.fst).nodup_iff, ← hentries]
    exact (v.flatten separator).distinct
  rw [hentries, flatten, flattenBelow, OrderedMap.entries_ofList hnodup]
  exact hperm

end FieldRules.Json
