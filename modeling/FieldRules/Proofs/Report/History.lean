import FieldRules.Report.Basic
import Mathlib.Data.List.Induction
import Mathlib.Data.List.Nodup

/-!
Reports are lists of records with an index. The index always tells where the last record under each key
stands, so that pushing overwrites just that record. Hence a report holds after any history of operations
what a plain list holds on which the same operations search for the record to overwrite.
-/

namespace FieldRules

/-- The last place at which a key stands in a list. -/
structure LastAt {κ : Type} (keys : List κ) (key : κ) (position : Nat) : Prop where
  here : keys[position]? = some key
  last : ∀ later, position < later → keys[later]? ≠ some key

section LastAt

variable {κ : Type} {keys : List κ} {key other : κ} {position : Nat}

theorem LastAt.lt_length (h : LastAt keys key position) : position < keys.length :=
  (List.getElem?_eq_some_iff.1 h.here).1

theorem lastAt_cons_zero_iff : LastAt (other :: keys) key 0 ↔ other = key ∧ key ∉ keys := by
  constructor
  · intro h
    refine ⟨by simpa using h.here, fun hmem => ?_⟩
    obtain ⟨later, hlater⟩ := List.mem_iff_getElem?.1 hmem
    exact h.last (later + 1) (by omega) (by simpa using hlater)
  · rintro ⟨heq, hfresh⟩
    refine ⟨by simpa using heq, fun later hlater hkey => hfresh ?_⟩
    obtain ⟨before, rfl⟩ : ∃ before, later = before + 1 := ⟨later - 1, by omega⟩
    exact List.mem_of_getElem? (by simpa using hkey)

theorem lastAt_cons_succ_iff : LastAt (other :: keys) key (position + 1) ↔ LastAt keys key position := by
  constructor
  · intro h
    refine ⟨by simpa using h.here, fun later hlater hkey => ?_⟩
    exact h.last (later + 1) (by omega) (by simpa using hkey)
  · intro h
    refine ⟨by simpa using h.here, fun later hlater hkey => ?_⟩
    obtain ⟨before, rfl⟩ : ∃ before, later = before + 1 := ⟨later - 1, by omega⟩
    exact h.last before (by omega) (by simpa using hkey)

variable [DecidableEq κ]

/-- A key at the end is the last of its kind and hides the earlier ones. -/
theorem lastAt_append_singleton_iff :
    LastAt (keys ++ [other]) key position ↔
      if other = key then position = keys.length else LastAt keys key position := by
  have hend : (keys ++ [other])[keys.length]? = some other := by simp
  constructor
  · intro h
    have hle : position ≤ keys.length := by simpa [Nat.lt_succ_iff] using h.lt_length
    split
    · next heq =>
      by_contra hne
      exact h.last keys.length (by omega) (heq ▸ hend)
    · next hne =>
      have hlt : position < keys.length := by
        apply Nat.lt_of_le_of_ne hle
        rintro rfl
        exact hne (Option.some.inj (hend.symm.trans h.here))
      refine ⟨(List.getElem?_append_left hlt).symm.trans h.here, fun later hlater hkey => ?_⟩
      have hbound := (List.getElem?_eq_some_iff.1 hkey).1
      exact h.last later hlater ((List.getElem?_append_left hbound).trans hkey)
  · intro h
    split at h
    · next heq =>
      refine ⟨by rw [h, hend, heq], fun later hlater hkey => ?_⟩
      have hbound := (List.getElem?_eq_some_iff.1 hkey).1
      simp only [List.length_append, List.length_singleton] at hbound
      omega
    · next hne =>
      refine ⟨(List.getElem?_append_left h.lt_length).trans h.here, fun later hlater hkey => ?_⟩
      rcases Nat.lt_trichotomy later keys.length with hlt | rfl | hgt
      · exact h.last later hlater ((List.getElem?_append_left hlt).symm.trans hkey)
      · exact hne (Option.some.inj (hend.symm.trans hkey))
      · have hbound := (List.getElem?_eq_some_iff.1 hkey).1
        simp only [List.length_append, List.length_singleton] at hbound
        omega

theorem exists_lastAt_iff : (∃ position, LastAt keys key position) ↔ key ∈ keys := by
  constructor
  · rintro ⟨position, h⟩
    exact List.mem_of_getElem? h.here
  · intro hmem
    induction keys using List.reverseRecOn with
    | nil => simp at hmem
    | append_singleton front other ih =>
      by_cases heq : other = key
      · exact ⟨front.length, by rw [lastAt_append_singleton_iff, if_pos heq]⟩
      · have hfront : key ∈ front := by simpa [Ne.symm heq] using hmem
        obtain ⟨position, h⟩ := ih hfront
        exact ⟨position, by rwa [lastAt_append_singleton_iff, if_neg heq]⟩

end LastAt

/-- Without its repetitions a list goes on with what is new in it. -/
theorem eraseDups_append_singleton {κ : Type} [BEq κ] [LawfulBEq κ] (keys : List κ) (key : κ) :
    (keys ++ [key]).eraseDups = if key ∈ keys then keys.eraseDups else keys.eraseDups ++ [key] := by
  rw [List.eraseDups_append]
  by_cases hmem : key ∈ keys
  · simp [List.removeAll, hmem]
  · simp [List.removeAll, hmem, List.eraseDups_cons]

/-- A report without an index: a locale, and records in order. -/
structure Listing where
  locale : String
  records : List Record

namespace Listing

/-- What the records are filed under, in order. -/
def keys (listing : Listing) : List (Option String × String) := listing.records.map Record.key

def append (listing : Listing) (r : Record) : Listing :=
  { listing with records := listing.records ++ [r] }

/-- The records with the last one under the given record's key overwritten; `none` if there is none. -/
def overwrite? (r : Record) : List Record → Option (List Record)
  | [] => none
  | first :: rest =>
    match overwrite? r rest with
    | some overwritten => some (first :: overwritten)
    | none => if first.key = r.key then some (r :: rest) else none

def push (listing : Listing) (r : Record) : Listing :=
  { listing with records := (overwrite? r listing.records).getD (listing.records ++ [r]) }

def appendAll (listing other : Listing) : Listing :=
  { listing with records := listing.records ++ other.records }

def merge (listing other : Listing) : Listing := other.records.foldl push listing

/-- The record of a fault, with its message in the listing's locale. -/
def fault (listing : Listing) (validator target message : String) (value : Json)
    (rowId : Option Json) : Record :=
  { target, validator, messages := .ofList [(listing.locale, message)], value, rowId }

def forRow (listing : Listing) (rowId : Json) : Listing :=
  { listing with records := listing.records.filter fun r => r.rowId.any (·.sameValue rowId) }

variable {listing : Listing} {r : Record} {records : List Record} {position : Nat}

theorem overwrite?_of_not_mem (h : r.key ∉ records.map Record.key) : overwrite? r records = none := by
  induction records with
  | nil => rfl
  | cons first rest ih =>
    obtain ⟨hne, hrest⟩ := List.ne_and_not_mem_of_not_mem_cons h
    rw [overwrite?, ih hrest]
    exact if_neg (Ne.symm hne)

theorem overwrite?_of_lastAt (h : LastAt (records.map Record.key) r.key position) :
    overwrite? r records = some (records.set position r) := by
  induction records generalizing position with
  | nil => exact absurd h.lt_length (by simp)
  | cons first rest ih =>
    rw [List.map_cons] at h
    cases position with
    | zero =>
      obtain ⟨heq, hfresh⟩ := lastAt_cons_zero_iff.1 h
      rw [overwrite?, overwrite?_of_not_mem hfresh]
      exact if_pos heq
    | succ position =>
      rw [overwrite?, ih (lastAt_cons_succ_iff.1 h)]
      rfl

theorem push_of_lastAt (h : LastAt listing.keys r.key position) :
    listing.push r = { listing with records := listing.records.set position r } := by
  rw [push, overwrite?_of_lastAt h]
  rfl

theorem push_of_not_mem (h : r.key ∉ listing.keys) : listing.push r = listing.append r := by
  rw [push, overwrite?_of_not_mem h]
  rfl

@[simp] theorem keys_append (listing : Listing) (r : Record) :
    (listing.append r).keys = listing.keys ++ [r.key] := by
  simp [keys, append]

/-- Overwriting a record by one with its key changes no key. -/
theorem keys_set (hposition : LastAt listing.keys r.key position) :
    (listing.records.set position r).map Record.key = listing.keys := by
  rw [List.map_set, ← keys]
  apply List.ext_getElem?
  intro other
  rw [List.getElem?_set]
  split
  · next heq =>
    subst heq
    rw [if_pos hposition.lt_length, hposition.here]
  · rfl

/-- The record that is pushed last under a key. -/
def lastPushed? (pushed : List Record) (key : Option String × String) : Option Record :=
  (pushed.filter fun r => r.key = key).getLast?

theorem lastPushed?_append_singleton (pushed : List Record) (r : Record) (key : Option String × String) :
    lastPushed? (pushed ++ [r]) key = if r.key = key then some r else lastPushed? pushed key := by
  by_cases h : r.key = key <;> simp [lastPushed?, List.filter_append, h]

/-- The records that pushes leave behind: one for each key, at the place of the key's first push and with
the content of its last. -/
structure Settled (pushed records : List Record) : Prop where
  distinct : (records.map Record.key).Nodup
  places : records.map Record.key = (pushed.map Record.key).eraseDups
  content : ∀ r ∈ records, lastPushed? pushed r.key = some r

theorem settled_nil : Settled [] [] := ⟨by simp, by simp, by simp⟩

/-- A push to settled records settles them again, with the pushed record as the last of its key. -/
theorem Settled.push {pushed : List Record} (h : Settled pushed listing.records) (r : Record) :
    Settled (pushed ++ [r]) (listing.push r).records := by
  have hmem : r.key ∈ pushed.map Record.key ↔ r.key ∈ listing.keys := by
    rw [keys, h.places, List.mem_eraseDups]
  by_cases hfiled : r.key ∈ listing.keys
  · obtain ⟨position, hposition⟩ := exists_lastAt_iff.2 hfiled
    have hkeys := keys_set hposition
    have hdistinct : ((listing.records.set position r).map Record.key).Nodup := hkeys ▸ h.distinct
    have hr : r ∈ listing.records.set position r :=
      List.mem_set (by simpa [keys] using hposition.lt_length) r
    rw [push_of_lastAt hposition]
    refine ⟨hdistinct, ?_, fun old hold => ?_⟩
    · rw [hkeys, keys, h.places, List.map_append, List.map_singleton, eraseDups_append_singleton,
        if_pos (hmem.2 hfiled)]
    · rw [lastPushed?_append_singleton]
      split
      · next heq => rw [List.inj_on_of_nodup_map hdistinct hr hold heq]
      · next hne =>
        rcases List.mem_or_eq_of_mem_set hold with hold | rfl
        · exact h.content old hold
        · exact absurd rfl hne
  · have hkeys : (listing.append r).records.map Record.key = listing.keys ++ [r.key] := keys_append listing r
    rw [push_of_not_mem hfiled]
    refine ⟨?_, ?_, fun old hold => ?_⟩
    · rw [hkeys, List.nodup_append]
      refine ⟨h.distinct, by simp, ?_⟩
      rintro key hkey other hother rfl
      exact hfiled (List.mem_singleton.1 hother ▸ hkey)
    · rw [hkeys, keys, h.places, List.map_append, List.map_singleton, eraseDups_append_singleton,
        if_neg (mt hmem.1 hfiled)]
    · rw [lastPushed?_append_singleton]
      rcases List.mem_append.1 hold with hold | hold
      · rw [if_neg fun heq : r.key = old.key => hfiled (heq ▸ List.mem_map_of_mem hold)]
        exact h.content old hold
      · rw [List.mem_singleton.1 hold, if_pos rfl]

/-- A run of pushes on an empty listing settles. -/
theorem settled_foldl_push (locale : String) (pushed : List Record) :
    Settled pushed (pushed.foldl push ⟨locale, []⟩).records := by
  induction pushed using List.reverseRecOn with
  | nil => exact settled_nil
  | append_singleton front r ih =>
    rw [List.foldl_append]
    exact ih.push r

end Listing

namespace Report

/-- A report with its index left out. -/
def toListing (report : Report) : Listing := ⟨report.locale, report.records.toList⟩

/-- The index tells of each key where the last record under it stands. -/
def Indexed (report : Report) : Prop :=
  ∀ key position, report.latest[key]? = some position ↔ LastAt report.toListing.keys key position

variable {report : Report}

theorem indexed_empty (locale : String) : Indexed { locale } := by
  intro key position
  refine iff_of_false (by simp) fun h => ?_
  exact absurd h.lt_length (by simp [toListing, Listing.keys])

theorem toListing_append (report : Report) (r : Record) :
    (report.append r).toListing = report.toListing.append r := by
  simp [toListing, append, Listing.append]

theorem Indexed.append (h : report.Indexed) (r : Record) : (report.append r).Indexed := by
  intro key position
  have hsize : report.toListing.keys.length = report.records.size := by simp [toListing, Listing.keys]
  have hlook : (report.append r).latest[key]? =
      if r.key = key then some report.records.size else report.latest[key]? := by
    simp [Report.append, Std.HashMap.getElem?_insert]
  rw [hlook, toListing_append, Listing.keys_append, lastAt_append_singleton_iff, hsize]
  split
  · exact ⟨fun heq => (Option.some.inj heq).symm, fun heq => heq ▸ rfl⟩
  · exact h key position

/-- The index leads a push to the last record under the key, or tells that there is none. -/
theorem Indexed.push_cases (h : report.Indexed) (r : Record) :
    (∃ position, LastAt report.toListing.keys r.key position ∧
      report.push r = { report with records := report.records.setIfInBounds position r }) ∨
    (r.key ∉ report.toListing.keys ∧ report.push r = report.append r) := by
  rw [Report.push]
  cases hlook : report.latest[r.key]? with
  | some position => exact .inl ⟨position, (h _ _).1 hlook, rfl⟩
  | none =>
    refine .inr ⟨fun hmem => ?_, rfl⟩
    obtain ⟨position, hposition⟩ := exists_lastAt_iff.2 hmem
    rw [(h _ _).2 hposition] at hlook
    cases hlook

theorem Indexed.toListing_push (h : report.Indexed) (r : Record) :
    (report.push r).toListing = report.toListing.push r := by
  rcases h.push_cases r with ⟨position, hposition, hpush⟩ | ⟨hfresh, hpush⟩
  · rw [hpush, Listing.push_of_lastAt hposition]
    simp [toListing]
  · rw [hpush, Listing.push_of_not_mem hfresh, toListing_append]

theorem Indexed.push (h : report.Indexed) (r : Record) : (report.push r).Indexed := by
  rcases h.push_cases r with ⟨position, hposition, hpush⟩ | ⟨-, hpush⟩
  · -- No key changes, so that the index need not change either.
    have hkeys : (report.push r).toListing.keys = report.toListing.keys := by
      rw [h.toListing_push r, Listing.push_of_lastAt hposition]
      exact Listing.keys_set hposition
    intro key other
    rw [hkeys, hpush]
    exact h key other
  · rw [hpush]
    exact h.append r

/-- Records that are appended stand behind those that a report holds, also if they are filed under the same
key. -/
theorem toList_records_foldl_append (report : Report) (records : List Record) :
    (records.foldl append report).records.toList = report.records.toList ++ records := by
  induction records generalizing report with
  | nil => simp
  | cons r rest ih => simp [ih, append]

theorem toListing_foldl_append (report : Report) (records : List Record) :
    (records.foldl append report).toListing =
      { report.toListing with records := report.records.toList ++ records } := by
  have hlocale : (records.foldl append report).locale = report.locale := by
    induction records generalizing report with
    | nil => rfl
    | cons r rest ih => exact ih (report.append r)
  rw [toListing, hlocale, toList_records_foldl_append]
  rfl

theorem toList_records_foldl_appendAll (report : Report) (others : List Report) :
    (others.foldl appendAll report).records.toList =
      report.records.toList ++ others.flatMap (·.records.toList) := by
  induction others generalizing report with
  | nil => simp
  | cons other rest ih =>
    rw [List.foldl_cons, ih, appendAll, ← Array.foldl_toList, toList_records_foldl_append, List.append_assoc,
      List.flatMap_cons]

theorem Indexed.foldl_append (h : report.Indexed) (records : List Record) :
    (records.foldl Report.append report).Indexed := by
  induction records generalizing report with
  | nil => exact h
  | cons r rest ih => exact ih (h.append r)

theorem Indexed.foldl_push (h : report.Indexed) (records : List Record) :
    (records.foldl Report.push report).Indexed ∧
      (records.foldl Report.push report).toListing = records.foldl Listing.push report.toListing := by
  induction records generalizing report with
  | nil => exact ⟨h, rfl⟩
  | cons r rest ih =>
    rw [List.foldl_cons, List.foldl_cons, ← h.toListing_push r]
    exact ih (h.push r)

theorem toListing_forRow (report : Report) (rowId : Json) :
    (report.forRow rowId).toListing = report.toListing.forRow rowId := by
  rw [forRow, ← Array.foldl_toList, toListing_foldl_append, Array.toList_filter]
  rfl

end Report

/-- What is done to a report, from an empty one on. -/
inductive History where
  | empty (locale : String)
  | addError (before : History) (validator target message : String) (value : Json)
  | addErrorForRow (before : History) (validator target message : String) (value rowId : Json)
  | push (before : History) (r : Record)
  | append (before : History) (r : Record)
  | appendAll (before other : History)
  | merge (before other : History)
  | forRow (before : History) (rowId : Json)

namespace History

/-- The report that a history leads to. -/
def report : History → Report
  | empty locale => { locale }
  | addError before validator target message value =>
    before.report.addError validator target message value
  | addErrorForRow before validator target message value rowId =>
    before.report.addError validator target message value (some rowId)
  | push before r => before.report.push r
  | append before r => before.report.append r
  | appendAll before other => before.report.appendAll other.report
  | merge before other => before.report.merge other.report
  | forRow before rowId => before.report.forRow rowId

/-- The plain list that a history leads to. -/
def listing : History → Listing
  | empty locale => ⟨locale, []⟩
  | addError before validator target message value =>
    before.listing.push (before.listing.fault validator target message value none)
  | addErrorForRow before validator target message value rowId =>
    before.listing.push (before.listing.fault validator target message value (some rowId))
  | push before r => before.listing.push r
  | append before r => before.listing.append r
  | appendAll before other => before.listing.appendAll other.listing
  | merge before other => before.listing.merge other.listing
  | forRow before rowId => before.listing.forRow rowId

/-- The records that a history pushes one after the other, if it does nothing else to its report. -/
def pushed? : History → Option (List Record)
  | empty _ => some []
  | addError before validator target message value =>
    before.pushed?.map (· ++ [before.listing.fault validator target message value none])
  | addErrorForRow before validator target message value rowId =>
    before.pushed?.map (· ++ [before.listing.fault validator target message value (some rowId)])
  | push before r => before.pushed?.map (· ++ [r])
  | merge before other => before.pushed?.map (· ++ other.listing.records)
  | append _ _ | appendAll _ _ | forRow _ _ => none

/-- The list is what a run of pushes makes of an empty one. -/
def Pushes (history : History) (pushed : List Record) : Prop :=
  ∃ locale, history.listing = pushed.foldl Listing.push ⟨locale, []⟩

private theorem pushes_of_map {before : History} {records pushed : List Record}
    (hbefore : ∀ earlier, before.pushed? = some earlier → before.Pushes earlier)
    (h : before.pushed?.map (· ++ records) = some pushed) :
    ∃ locale, records.foldl Listing.push before.listing = pushed.foldl Listing.push ⟨locale, []⟩ := by
  obtain ⟨earlier, hearlier, rfl⟩ := Option.map_eq_some_iff.1 h
  obtain ⟨locale, hlisting⟩ := hbefore earlier hearlier
  exact ⟨locale, by rw [List.foldl_append, hlisting]⟩

theorem pushes_of_pushed? {history : History} {pushed : List Record} (h : history.pushed? = some pushed) :
    history.Pushes pushed := by
  induction history generalizing pushed with
  | empty locale =>
    cases h
    exact ⟨locale, rfl⟩
  | addError before _ _ _ _ ih => exact pushes_of_map (fun _ => ih) h
  | addErrorForRow before _ _ _ _ _ ih => exact pushes_of_map (fun _ => ih) h
  | push before r ih => exact pushes_of_map (fun _ => ih) h
  | merge before other ih _ => exact pushes_of_map (fun _ => ih) h
  | append | appendAll | forRow => cases h

/-- The index tells the truth after every operation, and with it the report holds what the list holds. -/
theorem indexed_report (history : History) :
    history.report.Indexed ∧ history.report.toListing = history.listing := by
  induction history with
  | empty locale => exact ⟨Report.indexed_empty locale, rfl⟩
  | addError before validator target message value ih =>
    obtain ⟨hindexed, hlisting⟩ := ih
    refine ⟨hindexed.push _, ?_⟩
    rw [listing, ← hlisting]
    exact hindexed.toListing_push _
  | addErrorForRow before validator target message value rowId ih =>
    obtain ⟨hindexed, hlisting⟩ := ih
    refine ⟨hindexed.push _, ?_⟩
    rw [listing, ← hlisting]
    exact hindexed.toListing_push _
  | push before r ih =>
    obtain ⟨hindexed, hlisting⟩ := ih
    refine ⟨hindexed.push r, ?_⟩
    rw [listing, ← hlisting]
    exact hindexed.toListing_push r
  | append before r ih =>
    obtain ⟨hindexed, hlisting⟩ := ih
    refine ⟨hindexed.append r, ?_⟩
    rw [listing, ← hlisting]
    exact Report.toListing_append _ r
  | appendAll before other ih ihOther =>
    obtain ⟨hindexed, hlisting⟩ := ih
    rw [report, Report.appendAll, ← Array.foldl_toList, listing, ← hlisting, ← ihOther.2]
    exact ⟨hindexed.foldl_append _, Report.toListing_foldl_append _ _⟩
  | merge before other ih ihOther =>
    obtain ⟨hindexed, hlisting⟩ := ih
    rw [report, Report.merge, ← Array.foldl_toList, listing, ← hlisting, ← ihOther.2]
    exact hindexed.foldl_push _
  | forRow before rowId ih =>
    obtain ⟨-, hlisting⟩ := ih
    rw [report, listing, ← hlisting]
    refine ⟨?_, Report.toListing_forRow _ rowId⟩
    rw [Report.forRow, ← Array.foldl_toList]
    exact (Report.indexed_empty _).foldl_append _

/-- After every history the index holds the keys of the records, each with the place of the last record
under it, and the report holds what a plain list would hold after the same operations. If there were only
pushes and merges, no two records share a key, and each stands where its key was first pushed with what was
last pushed under it. -/
theorem report_refines_listing (history : History) :
    (∀ key, key ∈ history.report.latest ↔ ∃ r ∈ history.report.records, r.key = key) ∧
    (∀ key position, history.report.latest[key]? = some position ↔
      LastAt (history.report.records.toList.map Record.key) key position) ∧
    history.report.locale = history.listing.locale ∧
    history.report.records.toList = history.listing.records ∧
    ∀ pushed, history.pushed? = some pushed → Listing.Settled pushed history.report.records.toList := by
  obtain ⟨hindexed, hlisting⟩ := indexed_report history
  refine ⟨fun key => ?_, hindexed, congrArg Listing.locale hlisting, congrArg Listing.records hlisting,
    fun pushed hpushed => ?_⟩
  · rw [Std.HashMap.mem_iff_isSome_getElem?, Option.isSome_iff_exists]
    simp only [hindexed key, exists_lastAt_iff]
    simp [Report.toListing, Listing.keys]
  · obtain ⟨locale, hrun⟩ := pushes_of_pushed? hpushed
    have hrecords : history.report.records.toList = history.listing.records :=
      congrArg Listing.records hlisting
    rw [hrecords, hrun]
    exact Listing.settled_foldl_push locale pushed

/-- A push overwrites the last of the records that were appended under its key. -/
theorem report_refines_listing_repeated :
    let first : Record := { target := "a", validator := "first", value := .null }
    let second : Record := { target := "a", validator := "second", value := .null }
    let other : Record := { target := "b", validator := "other", value := .null }
    let last : Record := { target := "a", validator := "last", value := .null }
    let mixed : History := ((((History.empty "en").append first).append second).append other).push last
    let pushes : History := (((History.empty "en").push first).push other).push last
    mixed.report.records.toList = [first, last, other] ∧ mixed.report.latest[last.key]? = some 1 ∧
      pushes.pushed? = some [first, other, last] ∧ pushes.report.records.toList = [last, other] ∧
      Listing.Settled [first, other, last] pushes.report.records.toList := by
  intro first second other last mixed pushes
  obtain ⟨-, hindex, -, hmixed, -⟩ := report_refines_listing mixed
  obtain ⟨-, -, -, hpushes, hsettled⟩ := report_refines_listing pushes
  have hrecords : mixed.report.records.toList = [first, last, other] := hmixed.trans (by rfl)
  refine ⟨hrecords, (hindex last.key 1).2 ?_, rfl, hpushes.trans (by rfl), hsettled _ rfl⟩
  rw [hrecords]
  exact lastAt_cons_succ_iff.2 (lastAt_cons_zero_iff.2 ⟨rfl, by decide⟩)

end History

end FieldRules
