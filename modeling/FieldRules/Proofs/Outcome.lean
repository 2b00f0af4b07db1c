import Mathlib.Data.List.Forall2

/-!
When steps that may fail give a result, and which of them fails otherwise.
-/

namespace FieldRules

variable {ε α β : Type _}

theorem bind_eq_ok_iff {x : Except ε α} {f : α → Except ε β} {b : β} :
    (x >>= f) = .ok b ↔ ∃ a, x = .ok a ∧ f a = .ok b := by
  cases x <;> simp [bind, Except.bind]

/-- What is done behind a step matters only if the step gives a result. -/
theorem bind_congr_of_ok {x : Except ε α} {f g : α → Except ε β} (h : ∀ a, x = .ok a → f a = g a) :
    (x >>= f) = (x >>= g) := by
  cases x with
  | error e => rfl
  | ok a => exact h a rfl

theorem map_eq_ok_iff {x : Except ε α} {f : α → β} {b : β} :
    x.map f = .ok b ↔ ∃ a, x = .ok a ∧ f a = b := by
  cases x <;> simp [Except.map]

theorem mapError_eq_ok_iff {ε' : Type _} {x : Except ε α} {f : ε → ε'} {a : α} : x.mapError f = .ok a ↔ x = .ok a := by
  cases x <;> simp [Except.mapError]

/-- A list of steps gives results exactly if each of them does. -/
theorem mapM_eq_ok_iff {f : α → Except ε β} {xs : List α} {ys : List β} :
    xs.mapM f = .ok ys ↔ List.Forall₂ (fun x y => f x = .ok y) xs ys := by
  induction xs generalizing ys with
  | nil => simp [pure, Except.pure, eq_comm]
  | cons x xs ih =>
    rw [List.mapM_cons, bind_eq_ok_iff, List.forall₂_cons_left_iff]
    constructor
    · rintro ⟨y, hy, h⟩
      obtain ⟨rest, hrest, h⟩ := bind_eq_ok_iff.1 h
      cases h
      exact ⟨y, rest, hy, ih.1 hrest, rfl⟩
    · rintro ⟨y, rest, hy, hrest, rfl⟩
      exact ⟨y, hy, bind_eq_ok_iff.2 ⟨rest, ih.2 hrest, rfl⟩⟩

section Error

variable {e : ε}

theorem bind_eq_error_iff {x : Except ε α} {f : α → Except ε β} :
    (x >>= f) = .error e ↔ x = .error e ∨ ∃ a, x = .ok a ∧ f a = .error e := by
  cases x <;> simp [bind, Except.bind]

theorem map_eq_error_iff {x : Except ε α} {f : α → β} : x.map f = .error e ↔ x = .error e := by
  cases x <;> simp [Except.map]

/-- A list of steps fails with the failure of one of them. -/
theorem exists_of_mapM_eq_error {f : α → Except ε β} {xs : List α} (h : xs.mapM f = .error e) :
    ∃ x ∈ xs, f x = .error e := by
  induction xs with
  | nil => cases h
  | cons x xs ih =>
    rw [List.mapM_cons, bind_eq_error_iff] at h
    rcases h with hfirst | ⟨y, -, h⟩
    · exact ⟨x, List.mem_cons_self, hfirst⟩
    · rcases bind_eq_error_iff.1 h with hrest | ⟨ys, -, hpure⟩
      · obtain ⟨x', hx', hfail⟩ := ih hrest
        exact ⟨x', List.mem_cons_of_mem _ hx', hfail⟩
      · cases hpure

/-- A run that fails goes well up to one of its steps, which fails. -/
theorem exists_append_of_foldlM_eq_error {f : β → α → Except ε β} {xs : List α} {init : β}
    (h : xs.foldlM f init = .error e) :
    ∃ before x after b, xs = before ++ x :: after ∧ before.foldlM f init = .ok b ∧ f b x = .error e := by
  induction xs generalizing init with
  | nil => cases h
  | cons x xs ih =>
    rw [List.foldlM_cons, bind_eq_error_iff] at h
    rcases h with hfirst | ⟨b, hb, hrest⟩
    · exact ⟨[], x, xs, init, rfl, rfl, hfirst⟩
    · obtain ⟨before, x', after, b', rfl, hbefore, hfail⟩ := ih hrest
      exact ⟨x :: before, x', after, b', rfl, by rw [List.foldlM_cons, hb]; exact hbefore, hfail⟩

end Error

section Failure

/-- What a step fails with, if it fails. -/
def failure? : Except ε α → Option ε
  | .error e => some e
  | .ok _ => none

theorem failure?_eq_some_iff {x : Except ε α} {e : ε} : failure? x = some e ↔ x = .error e := by
  cases x <;> simp [failure?]

theorem failure?_eq_none_iff {x : Except ε α} : failure? x = none ↔ ∃ a, x = .ok a := by
  cases x <;> simp [failure?]

/-- The first of two steps counts. -/
theorem failure?_bind {x : Except ε α} {f : α → Except ε β} {later : Option ε}
    (h : ∀ a, x = .ok a → failure? (f a) = later) : failure? (x >>= f) = (failure? x).or later := by
  cases x with
  | error e => rfl
  | ok a => exact h a rfl

theorem failure?_bind_pure (x : Except ε α) (f : α → β) : failure? (x >>= fun a => pure (f a)) = failure? x := by
  cases x <;> rfl

/-- A list of steps fails with the first of all the problems of its steps, if each step does with the first of its
own. -/
theorem failure?_mapM {f : α → Except ε β} {problems : α → List ε} {xs : List α}
    (h : ∀ x ∈ xs, failure? (f x) = (problems x).head?) : failure? (xs.mapM f) = (xs.flatMap problems).head? := by
  induction xs with
  | nil => rfl
  | cons x xs ih =>
    obtain ⟨hfirst, hrest⟩ := List.forall_mem_cons.1 h
    rw [List.mapM_cons, List.flatMap_cons, List.head?_append, ← hfirst, ← ih hrest]
    exact failure?_bind fun y _ => failure?_bind_pure (xs.mapM f) (y :: ·)

end Failure

section Forall₂

variable {R S : α → β → Prop} {xs : List α} {ys : List β}

theorem exists_right_of_forall₂ (h : List.Forall₂ R xs ys) {x : α} (hx : x ∈ xs) : ∃ y ∈ ys, R x y := by
  induction h with
  | nil => simp at hx
  | cons hfirst hrest ih =>
    rcases List.mem_cons.1 hx with rfl | hx
    · exact ⟨_, List.mem_cons_self, hfirst⟩
    · obtain ⟨y, hy, hxy⟩ := ih hx
      exact ⟨y, List.mem_cons_of_mem _ hy, hxy⟩

theorem exists_left_of_forall₂ (h : List.Forall₂ R xs ys) {y : β} (hy : y ∈ ys) : ∃ x ∈ xs, R x y :=
  exists_right_of_forall₂ (R := fun y x => R x y) h.flip hy

theorem exists_forall₂ (h : ∀ x ∈ xs, ∃ y, R x y) : ∃ ys, List.Forall₂ R xs ys := by
  induction xs with
  | nil => exact ⟨[], .nil⟩
  | cons x xs ih =>
    obtain ⟨⟨y, hy⟩, hrest⟩ := List.forall_mem_cons.1 h
    obtain ⟨ys, hys⟩ := ih hrest
    exact ⟨y :: ys, .cons hy hys⟩

theorem forall₂_and_mem (h : List.Forall₂ R xs ys) : List.Forall₂ (fun x y => x ∈ xs ∧ R x y) xs ys := by
  induction h with
  | nil => exact .nil
  | cons hfirst hrest ih =>
    exact .cons ⟨List.mem_cons_self, hfirst⟩ (ih.imp fun x y h => ⟨List.mem_cons_of_mem _ h.1, h.2⟩)

theorem forall₂_congr_of_mem (h : ∀ x ∈ xs, ∀ y, R x y ↔ S x y) :
    List.Forall₂ R xs ys ↔ List.Forall₂ S xs ys := by
  induction xs generalizing ys with
  | nil => simp
  | cons x xs ih =>
    obtain ⟨hfirst, hrest⟩ := List.forall_mem_cons.1 h
    simp only [List.forall₂_cons_left_iff, hfirst, ih hrest]

theorem map_eq_map_of_forall₂ {γ : Type _} {f : α → γ} {g : β → γ} (h : List.Forall₂ R xs ys)
    (heq : ∀ x y, R x y → f x = g y) : xs.map f = ys.map g := by
  induction h with
  | nil => rfl
  | cons hfirst hrest ih => rw [List.map_cons, List.map_cons, heq _ _ hfirst, ih]

theorem mapIdx_eq_mapIdx_of_forall₂ {γ : Type _} {f : Nat → α → γ} {g : Nat → β → γ} (h : List.Forall₂ R xs ys)
    (heq : ∀ n x y, R x y → f n x = g n y) : xs.mapIdx f = ys.mapIdx g := by
  induction h generalizing f g with
  | nil => rfl
  | cons hfirst hrest ih =>
    rw [List.mapIdx_cons, List.mapIdx_cons, heq 0 _ _ hfirst, ih fun n x y hxy => heq (n + 1) x y hxy]

end Forall₂

end FieldRules
