import FieldRules.Json.Basic
import FieldRules.Proofs.Flat.Index
import FieldRules.Proofs.OrderedMap
import Mathlib.Data.List.Nodup

/-!
Places in values: what stands anywhere within a value, and what stands at the end of a path.
-/

namespace FieldRules.Json

/-- Induction on a value through the items and members of its containers. -/
theorem places_induction {motive : Json → Prop} (hterminal : ∀ v, v.isTerminal = true → motive v)
    (harray : ∀ items, items ≠ [] → (∀ item ∈ items, motive item) → motive (.array items))
    (hobject : ∀ members, members ≠ [] → (∀ member ∈ members, motive member.2) →
      motive (.object members)) (v : Json) : motive v := by
  match v with
  | .null | .bool _ | .number _ | .string _ | .array [] | .object [] => exact hterminal _ rfl
  | .array (item :: rest) =>
    refine harray _ (by simp) fun other hother => ?_
    have hsmaller := List.sizeOf_lt_of_mem hother
    exact places_induction hterminal harray hobject other
  | .object (member :: rest) =>
    refine hobject _ (by simp) fun other hother => ?_
    have hsmaller := List.sizeOf_lt_of_mem hother
    have hvalue : sizeOf other.2 < sizeOf other := by
      rw [Prod.mk.sizeOf_spec other.1 other.2]
      omega
    exact places_induction hterminal harray hobject other.2
termination_by sizeOf v
decreasing_by all_goals simp_wf; simp at hsmaller; omega

/-- A property that containers have if their parts do is had by all values if the scalars have it. -/
theorem values_induction {motive : Json → Prop} (hnull : motive .null) (hbool : ∀ b, motive (.bool b))
    (hnumber : ∀ n, motive (.number n)) (hstring : ∀ s, motive (.string s))
    (harray : ∀ items, (∀ item ∈ items, motive item) → motive (.array items))
    (hobject : ∀ members, (∀ member ∈ members, motive member.2) → motive (.object members)) (v : Json) :
    motive v := by
  induction v using places_induction with
  | hterminal v hv =>
    cases v with
    | null => exact hnull
    | bool b => exact hbool b
    | number n => exact hnumber n
    | string s => exact hstring s
    | array items => exact harray items (by simp [List.isEmpty_iff.1 hv])
    | object members => exact hobject members (by simp [List.isEmpty_iff.1 hv])
  | harray items _ ih => exact harray items ih
  | hobject members _ ih => exact hobject members ih

/-- A value stands in another one, at any depth. -/
inductive Within : Json → Json → Prop
  | self (v : Json) : Within v v
  | item {v item : Json} {items : List Json} (hmem : item ∈ items) (hwithin : Within v item) :
      Within v (.array items)
  | member {v : Json} {member : String × Json} {members : List (String × Json)}
      (hmem : member ∈ members) (hwithin : Within v member.2) : Within v (.object members)

/-- The value of a container under a segment: a member of an object, or the item of an array at the
position that the segment denotes. -/
def child? (v : Json) (segment : String) : Option Json :=
  match v with
  | .object members => Assoc.find? members segment
  | .array items => (Path.index? segment).bind (items[·]?)
  | _ => none

/-- The value at the end of a path of segments. -/
def follow? (v : Json) : List String → Option Json
  | [] => some v
  | segment :: rest => (v.child? segment).bind (follow? · rest)

@[simp] theorem follow?_nil (v : Json) : v.follow? [] = some v := rfl

theorem follow?_cons (v : Json) (segment : String) (rest : List String) :
    v.follow? (segment :: rest) = (v.child? segment).bind (follow? · rest) := rfl

theorem follow?_append (v : Json) (path rest : List String) :
    v.follow? (path ++ rest) = (v.follow? path).bind (follow? · rest) := by
  induction path generalizing v with
  | nil => rfl
  | cons segment path ih =>
    cases h : v.child? segment with
    | none => simp [follow?_cons, h]
    | some next => simp [follow?_cons, h, ih]

@[simp] theorem child?_object (members : List (String × Json)) (segment : String) :
    (Json.object members).child? segment = Assoc.find? members segment := rfl

@[simp] theorem child?_array_ofIndex (items : List Json) (position : Nat) :
    (Json.array items).child? (Path.ofIndex position) = items[position]? := by
  simp [child?]

/-- What stands under a segment is smaller than its container. -/
theorem sizeOf_lt_of_child? {v w : Json} {segment : String} (h : v.child? segment = some w) :
    sizeOf w < sizeOf v := by
  cases v with
  | null | bool _ | number _ | string _ => simp [child?] at h
  | object members =>
    have hmem := List.sizeOf_lt_of_mem (Assoc.mem_of_find?_eq_some h)
    simp only [Prod.mk.sizeOf_spec] at hmem
    simp only [Json.object.sizeOf_spec]
    omega
  | array items =>
    obtain ⟨position, -, hitem⟩ := Option.bind_eq_some_iff.1 h
    have hmem := List.sizeOf_lt_of_mem (List.mem_of_getElem? hitem)
    simp only [Json.array.sizeOf_spec]
    omega

/-! Equality up to the order of members. -/

mutual

/-- Two values differ only in the order of the members of objects, at any depth. -/
inductive Reordered : Json → Json → Prop
  | refl (v : Json) : Reordered v v
  | array {items others : List Json} (hitems : ReorderedItems items others) :
      Reordered (.array items) (.array others)
  | object {members middle others : List (String × Json)} (hmembers : ReorderedMembers members middle)
      (hperm : middle.Perm others) : Reordered (.object members) (.object others)

inductive ReorderedItems : List Json → List Json → Prop
  | nil : ReorderedItems [] []
  | cons {item other : Json} {items others : List Json} (hitem : Reordered item other)
      (hitems : ReorderedItems items others) : ReorderedItems (item :: items) (other :: others)

inductive ReorderedMembers : List (String × Json) → List (String × Json) → Prop
  | nil : ReorderedMembers [] []
  | cons {key : String} {value other : Json} {members others : List (String × Json)}
      (hvalue : Reordered value other) (hmembers : ReorderedMembers members others) :
      ReorderedMembers ((key, value) :: members) ((key, other) :: others)

end

theorem reorderedItems_of_getElem? {items others : List Json} (hlength : items.length = others.length)
    (h : ∀ (n : Nat) item other, items[n]? = some item → others[n]? = some other → Reordered item other) :
    ReorderedItems items others := by
  induction items generalizing others with
  | nil =>
    obtain rfl := List.length_eq_zero_iff.1 hlength.symm
    exact .nil
  | cons item items ih =>
    obtain ⟨other, others, rfl⟩ := List.exists_cons_of_length_eq_add_one hlength.symm
    refine .cons (h 0 item other rfl rfl) (ih (by simpa using hlength) ?_)
    intro n item' other' hitem hother
    exact h (n + 1) item' other' (by simpa using hitem) (by simpa using hother)

/-- Objects with the same keys differ in the order of members if the values under each key do. -/
theorem reordered_object_of_find? {members others : List (String × Json)}
    (hnodup : (Assoc.keys members).Nodup) (hnodup' : (Assoc.keys others).Nodup)
    (hkeys : ∀ key, key ∈ Assoc.keys members ↔ key ∈ Assoc.keys others)
    (h : ∀ key value other, Assoc.find? members key = some value →
      Assoc.find? others key = some other → Reordered value other) :
    Reordered (.object members) (.object others) := by
  let at? (key : String) : Json := (Assoc.find? others key).getD .null
  let middle := members.map fun member => (member.1, at? member.1)
  have hmiddleKeys : Assoc.keys middle = Assoc.keys members := by
    simp [middle, Assoc.keys, Function.comp_def]
  have hmiddle : ∀ entry, entry ∈ middle ↔ entry ∈ others := by
    rintro ⟨key, value⟩
    constructor
    · intro hmem
      obtain ⟨member, hmember, heq⟩ := List.mem_map.1 hmem
      obtain ⟨rfl, rfl⟩ : member.1 = key ∧ at? member.1 = value := by simpa using heq
      obtain ⟨other, hother⟩ := Assoc.exists_find?_eq_some_iff.2
        ((hkeys member.1).1 (Assoc.mem_keys_of_mem hmember))
      simpa [at?, hother] using Assoc.mem_of_find?_eq_some hother
    · intro hmem
      obtain ⟨own, hown⟩ := Assoc.mem_keys_iff.1 ((hkeys key).2 (Assoc.mem_keys_of_mem hmem))
      refine List.mem_map.2 ⟨(key, own), hown, ?_⟩
      simp [at?, (Assoc.find?_eq_some_iff hnodup').2 hmem]
  have hmembers : ReorderedMembers members middle := by
    have hall : ∀ member ∈ members, Reordered member.2 (at? member.1) := by
      rintro ⟨key, value⟩ hmember
      obtain ⟨other, hother⟩ := Assoc.exists_find?_eq_some_iff.2
        ((hkeys key).1 (Assoc.mem_keys_of_mem hmember))
      simpa [at?, hother] using
        h key value other ((Assoc.find?_eq_some_iff hnodup).2 hmember) hother
    clear hnodup hkeys h hmiddleKeys hmiddle
    induction members with
    | nil => exact .nil
    | cons member rest ih =>
      obtain ⟨hfirst, hrest⟩ := List.forall_mem_cons.1 hall
      exact .cons hfirst (ih hrest)
  have hperm : middle.Perm others := by
    refine (List.perm_ext_iff_of_nodup ?_ ?_).2 hmiddle
    · exact List.Nodup.of_map Prod.fst (by rw [← Assoc.keys, hmiddleKeys]; exact hnodup)
    · exact List.Nodup.of_map Prod.fst hnodup'
  exact .object hmembers hperm

end FieldRules.Json
