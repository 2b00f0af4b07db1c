/-!
Maps with text keys that keep their entries in the order in which the keys were first written.
-/

namespace FieldRules

namespace Assoc

variable {α β : Type _}

/-- The keys, in order. -/
def keys (entries : List (String × α)) : List String :=
  entries.map Prod.fst

/-- The value of the first entry with this key. -/
def find? (entries : List (String × α)) (key : String) : Option α :=
  match entries with
  | [] => none
  | (k, v) :: rest => if k = key then some v else find? rest key

/-- Writes a value: an entry with the key is overwritten where it stands, a new key goes to the
end. -/
def put (entries : List (String × α)) (key : String) (value : α) : List (String × α) :=
  match entries with
  | [] => [(key, value)]
  | (k, v) :: rest => if k = key then (k, value) :: rest else (k, v) :: put rest key value

/-- Writes the pairs one after the other. -/
def putAll (entries pairs : List (String × α)) : List (String × α) :=
  pairs.foldl (fun acc pair => put acc pair.1 pair.2) entries

@[simp] theorem keys_nil : keys ([] : List (String × α)) = [] := rfl

@[simp] theorem keys_cons (entry : String × α) (entries : List (String × α)) :
    keys (entry :: entries) = entry.1 :: keys entries := rfl

/-- A write to a key that is there changes no key; any other adds its key at the end. -/
theorem keys_put (entries : List (String × α)) (key : String) (value : α) :
    keys (put entries key value) =
      if key ∈ keys entries then keys entries else keys entries ++ [key] := by
  induction entries with
  | nil => simp [put]
  | cons entry rest ih =>
    by_cases h : entry.1 = key
    · simp [put, h]
    · have h' : ¬ key = entry.1 := fun e => h e.symm
      simp only [put, h, if_false, keys_cons, ih, List.mem_cons, h', false_or]
      split <;> simp

theorem nodup_keys_put {entries : List (String × α)} (h : (keys entries).Nodup) (key : String)
    (value : α) : (keys (put entries key value)).Nodup := by
  rw [keys_put]
  split
  · exact h
  · rename_i hkey
    exact List.nodup_append.2 ⟨h, by simp, by
      intro a ha b hb
      simp only [List.mem_singleton] at hb
      exact fun e => hkey (hb ▸ e ▸ ha)⟩

theorem nodup_keys_putAll {entries : List (String × α)} (h : (keys entries).Nodup)
    (pairs : List (String × α)) : (keys (putAll entries pairs)).Nodup := by
  induction pairs generalizing entries with
  | nil => exact h
  | cons pair rest ih => exact ih (nodup_keys_put h pair.1 pair.2)

/-- What was written is found, and every other key answers as before. -/
theorem find?_put (entries : List (String × α)) (key other : String) (value : α) :
    find? (put entries key value) other =
      if key = other then some value else find? entries other := by
  induction entries with
  | nil => simp [put, find?]
  | cons entry rest ih =>
    by_cases h : entry.1 = key
    · by_cases ho : key = other <;> simp [put, find?, h, ho]
    · by_cases ho : entry.1 = other
      · subst ho
        have hk : ¬ key = entry.1 := fun e => h e.symm
        simp [put, find?, h, hk]
      · simp [put, find?, h, ho, ih]

/-- Writing pairs with fresh, distinct keys appends them as they stand. -/
theorem putAll_of_nodup {entries pairs : List (String × α)}
    (h : (keys (entries ++ pairs)).Nodup) : putAll entries pairs = entries ++ pairs := by
  induction pairs generalizing entries with
  | nil => simp [putAll]
  | cons pair rest ih =>
    have hfresh : pair.1 ∉ keys entries := by
      intro hm
      simp only [keys, List.map_append, List.map_cons] at h hm
      exact (List.nodup_append.1 h).2.2 _ hm _ List.mem_cons_self rfl
    have hput : put entries pair.1 pair.2 = entries ++ [pair] := by
      clear ih h
      induction entries with
      | nil => simp [put]
      | cons entry entries ih =>
        simp only [keys_cons, List.mem_cons, not_or] at hfresh
        simp [put, Ne.symm hfresh.1, ih hfresh.2]
    calc putAll entries (pair :: rest) = putAll (entries ++ [pair]) rest := by
          simp only [putAll, List.foldl_cons, hput]
      _ = entries ++ [pair] ++ rest := ih (by simpa using h)
      _ = entries ++ pair :: rest := by simp

end Assoc

/-- A map from texts to values whose entries keep the order of their first writing. -/
structure OrderedMap (α : Type _) where
  /-- The entries, in order. -/
  entries : List (String × α)
  /-- No key stands twice. -/
  distinct : (Assoc.keys entries).Nodup
  deriving DecidableEq, Repr

namespace OrderedMap

variable {α β : Type _}

/-- The map without entries. -/
def empty : OrderedMap α := ⟨[], by simp⟩

instance : Inhabited (OrderedMap α) := ⟨empty⟩

instance : EmptyCollection (OrderedMap α) := ⟨empty⟩

/-- The keys, in order. -/
def keys (m : OrderedMap α) : List String := Assoc.keys m.entries

/-- The values, in order. -/
def values (m : OrderedMap α) : List α := m.entries.map Prod.snd

def size (m : OrderedMap α) : Nat := m.entries.length

def isEmpty (m : OrderedMap α) : Bool := m.entries.isEmpty

/-- The value at a key. -/
def get? (m : OrderedMap α) (key : String) : Option α := Assoc.find? m.entries key

def contains (m : OrderedMap α) (key : String) : Bool := (m.get? key).isSome

/-- Writes a value, in place when the key is there and at the end otherwise. -/
def insert (m : OrderedMap α) (key : String) (value : α) : OrderedMap α :=
  ⟨Assoc.put m.entries key value, Assoc.nodup_keys_put m.distinct key value⟩

/-- Writes the value only where the key is new. -/
def insertIfNew (m : OrderedMap α) (key : String) (value : α) : OrderedMap α :=
  if m.contains key then m else m.insert key value

/-- Writes all pairs in order, so that the last value of a repeated key wins and stands at the
key's first position. -/
def insertAll (m : OrderedMap α) (pairs : List (String × α)) : OrderedMap α :=
  ⟨Assoc.putAll m.entries pairs, Assoc.nodup_keys_putAll m.distinct pairs⟩

def ofList (pairs : List (String × α)) : OrderedMap α := empty.insertAll pairs

/-- Rewrites every value and moves no key. -/
def mapValues (f : α → β) (m : OrderedMap α) : OrderedMap β :=
  ⟨m.entries.map fun entry => (entry.1, f entry.2), by
    simpa [Assoc.keys, Function.comp_def] using m.distinct⟩

/-- The entries whose key satisfies the predicate, in order. -/
def filterKeys (m : OrderedMap α) (p : String → Bool) : OrderedMap α :=
  ⟨m.entries.filter fun entry => p entry.1,
    m.distinct.sublist ((List.filter_sublist).map _)⟩

@[ext] theorem ext {a b : OrderedMap α} (h : a.entries = b.entries) : a = b := by
  cases a; cases b; simp_all

@[simp] theorem get?_insert (m : OrderedMap α) (key other : String) (value : α) :
    (m.insert key value).get? other = if key = other then some value else m.get? other :=
  Assoc.find?_put _ _ _ _

theorem keys_insert (m : OrderedMap α) (key : String) (value : α) :
    (m.insert key value).keys = if key ∈ m.keys then m.keys else m.keys ++ [key] :=
  Assoc.keys_put _ _ _

/-- A map is rebuilt from its own entries. -/
@[simp] theorem ofList_entries (m : OrderedMap α) : ofList m.entries = m :=
  ext (by simpa [ofList, insertAll, empty] using
    @Assoc.putAll_of_nodup _ [] m.entries (by simpa using m.distinct))

end OrderedMap

end FieldRules
