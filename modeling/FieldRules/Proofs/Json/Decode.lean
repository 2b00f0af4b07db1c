import FieldRules.Proofs.OrderedMap
import FieldRules.Proofs.Outcome
import FieldRules.Schema.Json

/-!
Reading of typed values out of JSON. A member of an object decides one part of the record that is read, and a
part that no member speaks of stays as it was at the start. Hence a writer may leave a member out exactly where
the start already holds what it would say.
-/

namespace FieldRules.Json.Decode

section Containers

variable {α β : Type} {decode : Decoder β} {write : α → Json} {read : α → β} {xs : List α}

theorem list_map_eq_ok (hread : ∀ x ∈ xs, decode (write x) = .ok (read x)) :
    list decode (.array (xs.map write)) = .ok (xs.map read) := by
  rw [list, mapM_eq_ok_iff, List.forall₂_map_left_iff, List.forall₂_map_right_iff, List.forall₂_same]
  exact hread

theorem list_map_eq_ok_self {decode : Decoder α} (hread : ∀ x ∈ xs, decode (write x) = .ok x) :
    list decode (.array (xs.map write)) = .ok xs := by
  simpa using list_map_eq_ok hread

theorem table_map_eq_ok {key : α → String} (hread : ∀ x ∈ xs, decode (write x) = .ok (read x)) :
    table decode (.object (xs.map fun x => (key x, write x))) =
      .ok (.ofList (xs.map fun x => (key x, read x))) := by
  have hentries : ((xs.map fun x => (key x, write x)).mapM fun member =>
      (decode member.2).map fun value => (member.1, value)) = .ok (xs.map fun x => (key x, read x)) := by
    rw [mapM_eq_ok_iff, List.forall₂_map_left_iff, List.forall₂_map_right_iff, List.forall₂_same]
    exact fun x hx => map_eq_ok_iff.2 ⟨read x, hread x hx, rfl⟩
  rw [table, hentries]
  rfl

theorem table_map_entries_eq_ok {entries : List (String × β)} {write : String × β → Json}
    (hread : ∀ entry ∈ entries, decode (write entry) = .ok entry.2) :
    table decode (.object (entries.map fun entry => (entry.1, write entry))) = .ok (.ofList entries) := by
  have h := @table_map_eq_ok _ _ decode write Prod.snd entries Prod.fst hread
  rwa [List.map_id'] at h

/-- What is read from a list is read from its items. -/
theorem exists_read_of_mem_list {v : Json} {ys : List β} (h : list decode v = .ok ys) {y : β} (hy : y ∈ ys) :
    ∃ item, decode item = .ok y := by
  cases v with
  | array items =>
    obtain ⟨item, -, hitem⟩ := exists_left_of_forall₂ (mapM_eq_ok_iff.1 h) hy
    exact ⟨item, hitem⟩
  | _ => cases h

/-- What is read from a map is read from its values. -/
theorem exists_read_of_mem_table {v : Json} {m : OrderedMap β} (h : table decode v = .ok m)
    {entry : String × β} (hentry : entry ∈ m.entries) : ∃ item, decode item = .ok entry.2 := by
  cases v with
  | object members =>
    obtain ⟨entries, hentries, h⟩ := bind_eq_ok_iff.1 h
    cases h
    obtain ⟨member, -, hmember⟩ := exists_left_of_forall₂ (mapM_eq_ok_iff.1 hentries)
      (OrderedMap.mem_of_mem_entries_ofList hentry)
    obtain ⟨value, hvalue, rfl⟩ := map_eq_ok_iff.1 hmember
    exact ⟨member.2, hvalue⟩
  | _ => cases h

end Containers

theorem list_text_map_string (texts : List String) : list text (.array (texts.map .string)) = .ok texts :=
  list_map_eq_ok_self fun s _ => (rfl : text (.string s) = .ok s)

/-- A map whose values are rewritten is read back if each value is. -/
theorem table_ofMap_mapValues {α : Type} {decode : Decoder α} {write : α → Json}
    (hread : ∀ a, decode (write a) = .ok a) (m : OrderedMap α) :
    table decode (.ofMap (m.mapValues write)) = .ok m := by
  have h := @table_map_entries_eq_ok _ decode m.entries (fun entry => write entry.2) fun entry _ => hread entry.2
  rwa [OrderedMap.ofList_entries] at h

theorem table_any_ofMap (m : OrderedMap Json) : table any (.ofMap m) = .ok m := by
  have h := @table_map_entries_eq_ok _ any m.entries Prod.snd fun _ _ => rfl
  rwa [List.map_id', OrderedMap.ofList_entries] at h

section Says

variable {α : Type}

/-- A member, unless its object is empty. -/
def objectMember (name : String) (given : List (String × Json)) : List (String × Json) :=
  if given.isEmpty then [] else [(name, .object given)]

/-- The members say what a part of a record is: one under the part's name from which the part is read, or none
where the part is as it is without being told. -/
inductive Says (name : String) (decode : Decoder α) (untold : α) : List (String × Json) → α → Prop
  | told {v : Json} {a : α} (hread : decode v = .ok a) : Says name decode untold [(name, v)] a
  | silent : Says name decode untold [] untold

variable {name : String} {decode : Decoder α} {untold a : α}

theorem says_listMember {items : List Json} (huntold : decode (.array []) = .ok untold)
    (hread : decode (.array items) = .ok a) : Says name decode untold (listMember name items) a := by
  cases items with
  | nil =>
    cases huntold.symm.trans hread
    exact .silent
  | cons item items => exact .told hread

theorem says_objectMember {given : List (String × Json)} (huntold : decode (.object []) = .ok untold)
    (hread : decode (.object given) = .ok a) : Says name decode untold (objectMember name given) a := by
  cases given with
  | nil =>
    cases huntold.symm.trans hread
    exact .silent
  | cons member given => exact .told hread

theorem says_mapMember {m : OrderedMap Json} (huntold : decode (.object []) = .ok untold)
    (hread : decode (.ofMap m) = .ok a) : Says name decode untold (mapMember name m) a :=
  says_objectMember huntold hread

theorem says_listMember_string (name : String) (texts : List String) :
    Says name (list text) [] (listMember name (texts.map .string)) texts :=
  says_listMember rfl (list_text_map_string texts)

theorem says_textMember (t : Option String) : Says name (optional text) none (textMember name t) t := by
  cases t with
  | none => exact .silent
  | some s => exact .told rfl

end Says

section Members

variable {α σ : Type} {fields : List (Field σ)} {name : String} {decode : Decoder α} {set : α → σ → σ}
  {untold a : α} {start state next : σ} {given rest : List (String × Json)}

/-- The member of a name decides a part of the record. -/
def Reads (fields : List (Field σ)) (name : String) (decode : Decoder α) (set : α → σ → σ) : Prop :=
  (fields.find? (·.name == name)).map (·.read) = some fun v state => (decode v).map (set · state)

theorem members_append_eq_ok (hfirst : members fields start given = .ok state)
    (hrest : members fields state rest = .ok next) : members fields start (given ++ rest) = .ok next := by
  rw [members, List.foldlM_append]
  exact bind_eq_ok_iff.2 ⟨state, hfirst, hrest⟩

/-- What the members say of a part is what the record holds behind them, if the record held from the start what
they leave untold. -/
theorem Says.members_eq_ok (h : Says name decode untold given a) (hreads : Reads fields name decode set)
    (hstart : set untold start = start) : members fields start given = .ok (set a start) := by
  cases h with
  | silent => exact congrArg Except.ok hstart.symm
  | told hread =>
    obtain ⟨field, hfield, hfieldRead⟩ := Option.map_eq_some_iff.1 hreads
    rw [members, List.foldlM_cons]
    refine bind_eq_ok_iff.2 ⟨set a start, ?_, rfl⟩
    simp only [hfield, hfieldRead, hread]
    rfl

/-- Reading goes on behind what the members say of a part. -/
theorem Says.members_append_eq_ok (h : Says name decode untold given a) (hreads : Reads fields name decode set)
    (hstart : set untold start = start) (hrest : members fields (set a start) rest = .ok next) :
    members fields start (given ++ rest) = .ok next :=
  Decode.members_append_eq_ok (h.members_eq_ok hreads hstart) hrest

/-- Members of a name that is no field's are passed over. -/
theorem Says.members_of_find?_eq_none (h : Says name decode untold given a)
    (hnone : fields.find? (·.name == name) = none) : members fields start given = .ok start := by
  cases h with
  | silent => rfl
  | told =>
    rw [members, List.foldlM_cons]
    simp only [hnone]
    rfl

theorem Says.members_append_of_find?_eq_none (h : Says name decode untold given a)
    (hnone : fields.find? (·.name == name) = none) (hrest : members fields start rest = .ok next) :
    members fields start (given ++ rest) = .ok next :=
  Decode.members_append_eq_ok (h.members_of_find?_eq_none hnone) hrest

theorem object_eq_ok {record : String} (hmembers : members fields start given = .ok state)
    (hgiven : ∀ field ∈ fields, field.isRequired = true → field.name ∈ Assoc.keys given) :
    object record fields start (.object given) = .ok state := by
  have hmissing : (fields.find? fun field =>
      field.isRequired && !(Assoc.keys given).contains field.name) = none := by
    rw [List.find?_eq_none]
    intro field hfield hmissing
    simp only [Bool.and_eq_true, Bool.not_eq_true', List.contains_eq_mem, decide_eq_false_iff_not] at hmissing
    exact hmissing.2 (hgiven field hfield hmissing.1)
  rw [object, hmembers]
  simp only [bind, Except.bind, hmissing]

theorem record_object_eq_ok {name : String} (hmembers : members fields start given = .ok state)
    (hgiven : ∀ field ∈ fields, field.isRequired = true → field.name ∈ Assoc.keys given) :
    record name fields start (.object given) = .ok state :=
  @object_eq_ok _ fields start state given name hmembers hgiven

end Members

section Keeps

variable {α σ : Type} {P : σ → Prop} {fields : List (Field σ)} {start state : σ}

/-- Reading the field keeps a property of the record. -/
def Keeps (P : σ → Prop) (field : Field σ) : Prop :=
  ∀ v s s', field.read v s = .ok s' → P s → P s'

theorem keeps_given {name : String} {decode : Decoder α} {set : α → σ → σ}
    (hset : ∀ v a s, decode v = .ok a → P s → P (set a s)) : Keeps P (.given name decode set) := by
  intro v s s' h hs
  obtain ⟨a, ha, rfl⟩ := map_eq_ok_iff.1 h
  exact hset v a s ha hs

theorem keeps_required {name : String} {decode : Decoder α} {set : α → σ → σ}
    (hset : ∀ v a s, decode v = .ok a → P s → P (set a s)) : Keeps P (.required name decode set) :=
  @keeps_given _ _ _ name _ _ hset

/-- What each field keeps, reading members keeps. -/
theorem Keeps.members (hfields : ∀ field ∈ fields, Keeps P field) {given : List (String × Json)}
    (h : members fields start given = .ok state) (hstart : P start) : P state := by
  induction given generalizing start with
  | nil =>
    cases h
    exact hstart
  | cons member rest ih =>
    obtain ⟨next, hnext, h⟩ := bind_eq_ok_iff.1 h
    refine ih h ?_
    dsimp only at hnext
    split at hnext
    · next field hfield => exact hfields field (List.mem_of_find?_eq_some hfield) _ _ _ hnext hstart
    · cases hnext
      exact hstart

theorem Keeps.items (hfields : ∀ field ∈ fields, Keeps P field) {record : String} {count position : Nat}
    {given : List Json} (h : items record count position start fields given = .ok state) (hstart : P start) :
    P state := by
  induction fields generalizing given position start with
  | nil =>
    rw [Decode.items] at h
    split at h
    · cases h
      exact hstart
    · cases h
  | cons field fields ih =>
    obtain ⟨hfirst, hrest⟩ := List.forall_mem_cons.1 hfields
    cases given with
    | nil =>
      rw [Decode.items] at h
      split at h
      · cases h
      · exact ih hrest h hstart
    | cons item given =>
      obtain ⟨next, hnext, h⟩ := bind_eq_ok_iff.1 h
      exact ih hrest h (hfirst _ _ _ hnext hstart)

theorem Keeps.object (hfields : ∀ field ∈ fields, Keeps P field) {name : String} {v : Json}
    (h : object name fields start v = .ok state) (hstart : P start) : P state := by
  cases v with
  | object given =>
    obtain ⟨read, hread, h⟩ := bind_eq_ok_iff.1 h
    split at h
    · cases h
    · cases h
      exact Keeps.members hfields hread hstart
  | _ => cases h

theorem Keeps.record (hfields : ∀ field ∈ fields, Keeps P field) {name : String} {v : Json}
    (h : record name fields start v = .ok state) (hstart : P start) : P state := by
  cases v with
  | array given => exact Keeps.items hfields h hstart
  | _ =>
    simp only [Decode.record] at h
    exact Keeps.object hfields h hstart

end Keeps

end FieldRules.Json.Decode
