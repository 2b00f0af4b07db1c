import FieldRules.Proofs.Flat.ValueTree

/-!
Equality of values up to the order of members and the sign of zero: it carries on from value to value, and a value is
equal to itself if it is well-formed.
-/

namespace FieldRules

theorem Binary64.sameValue_refl (x : Binary64) : x.sameValue x = true := by
  simp [sameValue]

theorem Binary64.sameValue_trans {x y z : Binary64} (hxy : x.sameValue y = true) (hyz : y.sameValue z = true) :
    x.sameValue z = true := by
  simp only [sameValue, Bool.and_eq_true, Bool.or_eq_true, beq_iff_eq] at hxy hyz ⊢
  refine ⟨hxy.1.trans hyz.1, ?_⟩
  rcases hxy.2 with hsign | hzero
  · rcases hyz.2 with hsign' | hzero
    · exact .inl (hsign.trans hsign')
    · exact .inr (hxy.1.trans hzero)
  · exact .inr hzero

namespace Json

theorem Number.sameValue_refl (n : Number) : n.sameValue n = true := by
  cases n with
  | whole value _ => simp [Number.sameValue]
  | real value => exact value.sameValue_refl

theorem Number.sameValue_trans {l m n : Number} (hlm : l.sameValue m = true) (hmn : m.sameValue n = true) :
    l.sameValue n = true := by
  cases l <;> cases m <;> cases n <;> simp only [Number.sameValue, beq_iff_eq, Bool.false_eq_true] at hlm hmn ⊢
  · exact hlm.trans hmn
  · exact Binary64.sameValue_trans hlm hmn

theorem sameItems_iff {xs ys : List Json} :
    sameItems xs ys = true ↔ List.Forall₂ (fun x y => x.sameValue y = true) xs ys := by
  induction xs generalizing ys with
  | nil => cases ys <;> simp [sameItems]
  | cons x xs ih => cases ys <;> simp [sameItems, ih]

theorem sameMembers_iff {members others : List (String × Json)} :
    sameMembers members others = true ↔
      ∀ member ∈ members, ∃ y, Assoc.find? others member.1 = some y ∧ member.2.sameValue y = true := by
  induction members with
  | nil => simp [sameMembers]
  | cons member rest ih =>
    rw [sameMembers, Bool.and_eq_true, ih, List.forall_mem_cons]
    cases Assoc.find? others member.1 <;> simp

theorem sameValue_array_iff {items : List Json} {v : Json} :
    (Json.array items).sameValue v = true ↔
      ∃ others, v = .array others ∧ List.Forall₂ (fun x y => x.sameValue y = true) items others := by
  cases v <;> simp [sameValue, sameItems_iff]

theorem sameValue_object_iff {members : List (String × Json)} {v : Json} :
    (Json.object members).sameValue v = true ↔
      ∃ others, v = .object others ∧ members.length = others.length ∧
        ∀ member ∈ members, ∃ y, Assoc.find? others member.1 = some y ∧ member.2.sameValue y = true := by
  cases v <;> simp [sameValue, sameMembers_iff]

theorem sameValue_refl {v : Json} (h : v.WellFormed) : v.sameValue v = true := by
  induction v using values_induction with
  | hnull => rfl
  | hbool b => simp [sameValue]
  | hnumber n => exact n.sameValue_refl
  | hstring s => simp [sameValue]
  | harray items ih =>
    exact sameValue_array_iff.2 ⟨items, rfl,
      List.forall₂_same.2 fun item hitem => ih item hitem (wellFormed_array_iff.1 h item hitem)⟩
  | hobject members ih =>
    obtain ⟨hnodup, hmembers⟩ := wellFormed_object_iff.1 h
    exact sameValue_object_iff.2 ⟨members, rfl, rfl, fun member hmember =>
      ⟨member.2, (Assoc.find?_eq_some_iff hnodup).2 hmember, ih member hmember (hmembers member hmember)⟩⟩

theorem sameItems_trans {xs ys zs : List Json}
    (htrans : ∀ x ∈ xs, ∀ y z, x.sameValue y = true → y.sameValue z = true → x.sameValue z = true)
    (hxy : List.Forall₂ (fun x y => x.sameValue y = true) xs ys)
    (hyz : List.Forall₂ (fun x y => x.sameValue y = true) ys zs) :
    List.Forall₂ (fun x y => x.sameValue y = true) xs zs := by
  induction hxy generalizing zs with
  | nil =>
    cases hyz
    exact .nil
  | cons hfirst _ ih =>
    obtain ⟨hitem, hrest⟩ := List.forall_mem_cons.1 htrans
    obtain _ | ⟨hfirst', hyz⟩ := hyz
    exact .cons (hitem _ _ hfirst hfirst') (ih hrest hyz)

theorem sameValue_trans {u v w : Json} (huv : u.sameValue v = true) (hvw : v.sameValue w = true) :
    u.sameValue w = true := by
  induction u using values_induction generalizing v w with
  | hnull =>
    cases v <;> cases huv
    exact hvw
  | hbool b =>
    cases v <;> simp only [sameValue, beq_iff_eq, Bool.false_eq_true] at huv
    exact huv ▸ hvw
  | hnumber n =>
    cases v <;> simp only [sameValue, Bool.false_eq_true] at huv
    cases w <;> simp only [sameValue, Bool.false_eq_true] at hvw
    exact Number.sameValue_trans huv hvw
  | hstring s =>
    cases v <;> simp only [sameValue, beq_iff_eq, Bool.false_eq_true] at huv
    exact huv ▸ hvw
  | harray items ih =>
    obtain ⟨middle, rfl, hmiddle⟩ := sameValue_array_iff.1 huv
    obtain ⟨others, rfl, hothers⟩ := sameValue_array_iff.1 hvw
    exact sameValue_array_iff.2 ⟨others, rfl, sameItems_trans (fun item hitem _ _ => ih item hitem) hmiddle hothers⟩
  | hobject members ih =>
    obtain ⟨middle, rfl, hlength, hmiddle⟩ := sameValue_object_iff.1 huv
    obtain ⟨others, rfl, hlength', hothers⟩ := sameValue_object_iff.1 hvw
    refine sameValue_object_iff.2 ⟨others, rfl, hlength.trans hlength', fun member hmember => ?_⟩
    obtain ⟨x, hx, hsame⟩ := hmiddle member hmember
    obtain ⟨y, hy, hsame'⟩ := hothers _ (Assoc.mem_of_find?_eq_some hx)
    exact ⟨y, hy, ih member hmember hsame hsame'⟩

end Json

end FieldRules
