import FieldRules.OrderedMap

/-!
What ordered maps answer, said through their entries.
-/

namespace FieldRules

namespace Assoc

variable {α : Type _} {entries : List (String × α)} {key : String} {value : α}

theorem mem_keys_iff : key ∈ keys entries ↔ ∃ value, (key, value) ∈ entries := by
  simp [keys]

theorem mem_keys_of_mem (h : (key, value) ∈ entries) : key ∈ keys entries :=
  mem_keys_iff.2 ⟨value, h⟩

@[simp] theorem keys_append (entries others : List (String × α)) :
    keys (entries ++ others) = keys entries ++ keys others := by
  simp [keys]

theorem mem_of_find?_eq_some (h : find? entries key = some value) : (key, value) ∈ entries := by
  induction entries with
  | nil => simp [find?] at h
  | cons entry rest ih =>
    by_cases hkey : entry.1 = key
    · obtain rfl : entry.2 = value := by simpa [find?, hkey] using h
      simp [← hkey]
    · exact List.mem_cons_of_mem _ (ih (by simpa [find?, hkey] using h))

theorem find?_eq_none_iff : find? entries key = none ↔ key ∉ keys entries := by
  induction entries with
  | nil => simp [find?]
  | cons entry rest ih =>
    by_cases hkey : entry.1 = key
    · simp [find?, hkey]
    · simp [find?, hkey, ih, Ne.symm hkey]

theorem exists_find?_eq_some_iff : (∃ value, find? entries key = some value) ↔ key ∈ keys entries := by
  cases h : find? entries key with
  | none => simpa using find?_eq_none_iff.1 h
  | some value => simpa using mem_keys_of_mem (mem_of_find?_eq_some h)

theorem find?_append_of_not_mem_keys {others : List (String × α)} (hkey : key ∉ keys entries) :
    find? (entries ++ others) key = find? others key := by
  induction entries with
  | nil => rfl
  | cons entry rest ih =>
    obtain ⟨hne, hrest⟩ := List.ne_and_not_mem_of_not_mem_cons hkey
    simp [find?, Ne.symm hne, ih hrest]

theorem find?_append (entries others : List (String × α)) (key : String) :
    find? (entries ++ others) key = (find? entries key).or (find? others key) := by
  induction entries with
  | nil => rfl
  | cons entry rest ih =>
    by_cases hkey : entry.1 = key
    · simp [find?, hkey]
    · simp [find?, hkey, ih]

/-- Without repeated keys the first entry of a key is the only one. -/
theorem find?_eq_some_iff (hnodup : (keys entries).Nodup) :
    find? entries key = some value ↔ (key, value) ∈ entries := by
  constructor
  · exact mem_of_find?_eq_some
  · intro hmem
    induction entries with
    | nil => simp at hmem
    | cons entry rest ih =>
      obtain ⟨hfresh, hrest⟩ := List.nodup_cons.1 hnodup
      rcases List.mem_cons.1 hmem with rfl | hmem
      · simp [find?]
      · have hne : entry.1 ≠ key := fun heq => hfresh (heq ▸ mem_keys_of_mem hmem)
        simpa [find?, hne] using ih hrest hmem

/-- A filter leaves of the entry under a key either all or nothing. -/
theorem find?_filter_of_mem (hnodup : (keys entries).Nodup) (hmem : (key, value) ∈ entries)
    (p : String × α → Bool) :
    find? (entries.filter p) key = if p (key, value) then some value else none := by
  split
  · next hkept =>
    have hfiltered : (keys (entries.filter p)).Nodup := hnodup.sublist (List.filter_sublist.map _)
    exact (find?_eq_some_iff hfiltered).2 (List.mem_filter.2 ⟨hmem, hkept⟩)
  · next hdropped =>
    refine find?_eq_none_iff.2 fun hkey => hdropped ?_
    obtain ⟨other, hother⟩ := mem_keys_iff.1 hkey
    obtain ⟨hmemOther, hkept⟩ := List.mem_filter.1 hother
    have hsame : some other = some value :=
      ((find?_eq_some_iff hnodup).2 hmemOther).symm.trans ((find?_eq_some_iff hnodup).2 hmem)
    cases hsame
    exact hkept

/-- A new key goes to the end. -/
theorem put_of_not_mem_keys (hkey : key ∉ keys entries) :
    put entries key value = entries ++ [(key, value)] := by
  induction entries with
  | nil => rfl
  | cons entry rest ih =>
    obtain ⟨hne, hrest⟩ := List.ne_and_not_mem_of_not_mem_cons hkey
    simp [put, Ne.symm hne, ih hrest]

/-- A write in place changes what stands at its key and nothing else. -/
theorem put_append_of_not_mem_keys {old : α} {others : List (String × α)} (hkey : key ∉ keys entries) :
    put (entries ++ (key, old) :: others) key value = entries ++ (key, value) :: others := by
  induction entries with
  | nil => simp [put]
  | cons entry rest ih =>
    obtain ⟨hne, hrest⟩ := List.ne_and_not_mem_of_not_mem_cons hkey
    simp [put, Ne.symm hne, ih hrest]

theorem mem_or_eq_of_mem_put {entry : String × α} (h : entry ∈ put entries key value) :
    entry ∈ entries ∨ entry = (key, value) := by
  induction entries with
  | nil => simpa [put] using h
  | cons first rest ih =>
    rw [put] at h
    split at h
    · next heq =>
      rcases List.mem_cons.1 h with rfl | hrest
      · exact .inr (by rw [heq])
      · exact .inl (List.mem_cons_of_mem _ hrest)
    · rcases List.mem_cons.1 h with rfl | hrest
      · exact .inl List.mem_cons_self
      · exact (ih hrest).imp_left (List.mem_cons_of_mem _)

theorem mem_put_iff (hnodup : (keys entries).Nodup) {entry : String × α} :
    entry ∈ put entries key value ↔ entry = (key, value) ∨ (entry.1 ≠ key ∧ entry ∈ entries) := by
  obtain ⟨k, v⟩ := entry
  rw [← find?_eq_some_iff (nodup_keys_put hnodup key value), find?_put, ← find?_eq_some_iff hnodup]
  by_cases hk : key = k
  · subst hk
    simp [eq_comm]
  · simp [hk, Ne.symm hk]

/-- A write leaves no key out. -/
theorem mem_keys_put_iff {other : String} :
    other ∈ keys (put entries key value) ↔ other ∈ keys entries ∨ other = key := by
  rw [keys_put]
  split
  · next hkey => exact ⟨.inl, fun h => h.elim id (· ▸ hkey)⟩
  · rw [List.mem_append, List.mem_singleton]

theorem mem_keys_putAll_iff {pairs : List (String × α)} :
    key ∈ keys (putAll entries pairs) ↔ key ∈ keys entries ∨ key ∈ keys pairs := by
  induction pairs generalizing entries with
  | nil => simp [putAll]
  | cons pair rest ih =>
    change key ∈ keys (putAll (put entries pair.1 pair.2) rest) ↔ _
    rw [ih, mem_keys_put_iff, keys_cons, List.mem_cons, or_assoc]

end Assoc

namespace OrderedMap

variable {α : Type _} {m : OrderedMap α} {key : String} {value : α}

theorem get?_eq_some_iff : m.get? key = some value ↔ (key, value) ∈ m.entries :=
  Assoc.find?_eq_some_iff m.distinct

theorem get?_eq_none_iff : m.get? key = none ↔ key ∉ m.keys :=
  Assoc.find?_eq_none_iff

theorem contains_iff : m.contains key = true ↔ key ∈ m.keys := by
  rw [contains, Option.isSome_iff_ne_none, ne_eq, get?_eq_none_iff, Decidable.not_not]

theorem isEmpty_iff : m.isEmpty = true ↔ m = {} := by
  rw [isEmpty, List.isEmpty_iff]
  exact ⟨fun h => ext h, fun h => congrArg entries h⟩

theorem mem_keys_iff : key ∈ m.keys ↔ ∃ value, (key, value) ∈ m.entries :=
  Assoc.mem_keys_iff

theorem get?_insertIfNew (m : OrderedMap α) (key other : String) (value : α) :
    (m.insertIfNew key value).get? other = (m.get? other).or (Assoc.find? [(key, value)] other) := by
  rw [insertIfNew]
  cases hkey : m.get? key with
  | none =>
    by_cases hother : key = other
    · subst hother
      simp [contains, hkey, Assoc.find?]
    · simp [contains, hkey, hother, Assoc.find?]
  | some held =>
    by_cases hother : key = other
    · subst hother
      simp [contains, hkey]
    · simp [contains, hkey, hother, Assoc.find?]

/-- Entries that are written only where their keys are new answer behind those that are there. -/
theorem get?_foldl_insertIfNew (entries : List (String × α)) (m : OrderedMap α) (key : String) :
    (entries.foldl (fun acc entry => acc.insertIfNew entry.1 entry.2) m).get? key =
      (m.get? key).or (Assoc.find? entries key) := by
  induction entries generalizing m with
  | nil => simp [Assoc.find?]
  | cons entry rest ih =>
    rw [List.foldl_cons, ih, get?_insertIfNew, Option.or_assoc, ← Assoc.find?_append]
    rfl

/-- Pairs without a repeated key are stored as they stand. -/
theorem entries_ofList {pairs : List (String × α)} (hnodup : (Assoc.keys pairs).Nodup) :
    (ofList pairs).entries = pairs := by
  simpa [ofList, insertAll, empty] using @Assoc.putAll_of_nodup _ [] pairs hnodup

theorem mem_keys_ofList_iff {pairs : List (String × α)} : key ∈ (ofList pairs).keys ↔ key ∈ Assoc.keys pairs := by
  change key ∈ Assoc.keys (Assoc.putAll [] pairs) ↔ _
  rw [Assoc.mem_keys_putAll_iff]
  simp

/-- Writing pairs makes no entry that is none of them. -/
theorem mem_of_mem_entries_ofList {pairs : List (String × α)} {entry : String × α}
    (hentry : entry ∈ (ofList pairs).entries) : entry ∈ pairs := by
  have hall (entries : List (String × α)) (hmem : entry ∈ Assoc.putAll entries pairs) :
      entry ∈ entries ∨ entry ∈ pairs := by
    clear hentry
    induction pairs generalizing entries with
    | nil => exact .inl hmem
    | cons pair rest ih =>
      rcases ih _ hmem with hput | hrest
      · rcases Assoc.mem_or_eq_of_mem_put hput with hold | rfl
        · exact .inl hold
        · exact .inr List.mem_cons_self
      · exact .inr (List.mem_cons_of_mem _ hrest)
  simpa using hall [] hentry

end OrderedMap

end FieldRules
