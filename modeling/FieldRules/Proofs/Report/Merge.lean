import FieldRules.Proofs.Report.History

/-!
Merging reports. Of the records pushed under one key only the last counts, and pushes under different keys do
not disturb each other. So it makes no difference whether two reports are merged one after the other or merged
before, and a report that already holds the last record of each key is left as it is, its index included.
-/

namespace FieldRules

/-- The last record under a key stands behind some records and in front of none with this key. -/
theorem LastAt.exists_append {records : List Record} {key : Option String × String} {position : Nat}
    (h : LastAt (records.map Record.key) key position) :
    ∃ before old after, records = before ++ old :: after ∧ before.length = position ∧ old.key = key ∧
      key ∉ after.map Record.key := by
  induction records generalizing position with
  | nil => exact absurd h.lt_length (by simp)
  | cons first rest ih =>
    rw [List.map_cons] at h
    cases position with
    | zero =>
      obtain ⟨hkey, hfresh⟩ := lastAt_cons_zero_iff.1 h
      exact ⟨[], first, rest, rfl, rfl, hkey, hfresh⟩
    | succ position =>
      obtain ⟨before, old, after, rfl, hlength, hkey, hfresh⟩ := ih (lastAt_cons_succ_iff.1 h)
      exact ⟨first :: before, old, after, rfl, by rw [List.length_cons, hlength], hkey, hfresh⟩

/-- What is pushed last under a key is the record at the last place of the key. -/
theorem Listing.exists_lastAt_of_lastPushed? {records : List Record} {key : Option String × String} {r : Record}
    (h : lastPushed? records key = some r) :
    ∃ position, LastAt (records.map Record.key) key position ∧ records[position]? = some r := by
  induction records using List.reverseRecOn with
  | nil => cases h
  | append_singleton front last ih =>
    rw [lastPushed?_append_singleton] at h
    rw [List.map_append, List.map_singleton]
    split at h
    · next hkey =>
      cases h
      refine ⟨front.length, ?_, by simp⟩
      rw [lastAt_append_singleton_iff, if_pos hkey, List.length_map]
    · next hkey =>
      obtain ⟨position, hlast, hr⟩ := ih h
      have hposition : position < front.length := by simpa using hlast.lt_length
      refine ⟨position, ?_, (List.getElem?_append_left hposition).trans hr⟩
      rwa [lastAt_append_singleton_iff, if_neg hkey]

theorem Listing.lastPushed?_cons (r : Record) (rest : List Record) (key : Option String × String) :
    lastPushed? (r :: rest) key = (lastPushed? rest key).or (if r.key = key then some r else none) := by
  rw [lastPushed?, lastPushed?]
  by_cases hkey : r.key = key
  · cases hlast : (rest.filter fun x => x.key = key).getLast? <;> simp [hkey, List.getLast?_cons, hlast]
  · simp [hkey]

theorem Listing.lastPushed?_eq_none_iff {records : List Record} {key : Option String × String} :
    lastPushed? records key = none ↔ key ∉ records.map Record.key := by
  simp [lastPushed?]

namespace Report

variable {report : Report} {r x : Record} {position : Nat}

/-- A record is filed under the key. -/
def Files (report : Report) (key : Option String × String) : Prop := key ∈ report.toListing.keys

theorem push_of_getElem?_eq_some (h : report.latest[r.key]? = some position) :
    report.push r = { report with records := report.records.setIfInBounds position r } := by
  rw [push, h]

theorem push_of_getElem?_eq_none (h : report.latest[r.key]? = none) : report.push r = report.append r := by
  rw [push, h]

theorem Indexed.exists_lastAt (h : report.Indexed) {key : Option String × String} (hfiled : report.Files key) :
    ∃ position, report.latest[key]? = some position ∧ LastAt report.toListing.keys key position := by
  obtain ⟨position, hlast⟩ := exists_lastAt_iff.2 hfiled
  exact ⟨position, (h key position).2 hlast, hlast⟩

theorem Indexed.getElem?_eq_none (h : report.Indexed) {key : Option String × String}
    (hfresh : ¬ report.Files key) : report.latest[key]? = none := by
  refine Option.eq_none_iff_forall_ne_some.2 fun position hlook => hfresh ?_
  exact exists_lastAt_iff.1 ⟨position, (h key position).1 hlook⟩

theorem getElem?_latest_append (report : Report) (r : Record) (key : Option String × String) :
    (report.append r).latest[key]? = if r.key = key then some report.records.size else report.latest[key]? := by
  simp [append, Std.HashMap.getElem?_insert]

/-- Of two pushes under one key the second hides the first. -/
theorem Indexed.push_push_of_key_eq (h : report.Indexed) (hkey : x.key = r.key) :
    (report.push x).push r = report.push r := by
  by_cases hfiled : report.Files r.key
  · obtain ⟨position, hlook, -⟩ := h.exists_lastAt hfiled
    have hpush : report.push x = { report with records := report.records.setIfInBounds position x } :=
      push_of_getElem?_eq_some (hkey ▸ hlook)
    have hlook' : (report.push x).latest[r.key]? = some position := hpush ▸ hlook
    rw [push_of_getElem?_eq_some hlook', push_of_getElem?_eq_some hlook, hpush]
    simp
  · have hlook := h.getElem?_eq_none hfiled
    have hpush : report.push x = report.append x := push_of_getElem?_eq_none (hkey ▸ hlook)
    have hlook' : (report.push x).latest[r.key]? = some report.records.size := by
      rw [hpush, getElem?_latest_append, if_pos hkey]
    rw [push_of_getElem?_eq_some hlook', push_of_getElem?_eq_none hlook, hpush]
    simp [Report.append, Array.setIfInBounds, hkey, Array.set_push]

/-- A push under a key that is filed can wait for a push under another key. -/
theorem Indexed.push_push_of_key_ne (h : report.Indexed) (hfiled : report.Files r.key) (hkey : x.key ≠ r.key) :
    (report.push x).push r = (report.push r).push x := by
  obtain ⟨position, hlook, hlast⟩ := h.exists_lastAt hfiled
  have hposition : position < report.records.size := by simpa [toListing, Listing.keys] using hlast.lt_length
  have hpush := push_of_getElem?_eq_some hlook
  cases hother : report.latest[x.key]? with
  | some other =>
    have hne : other ≠ position := by
      rintro rfl
      have hhere := ((h x.key other).1 hother).here
      exact hkey (Option.some.inj (hhere.symm.trans hlast.here))
    have hpushOther := push_of_getElem?_eq_some hother
    have hlook' : (report.push x).latest[r.key]? = some position := hpushOther ▸ hlook
    have hother' : (report.push r).latest[x.key]? = some other := hpush ▸ hother
    rw [push_of_getElem?_eq_some hlook', push_of_getElem?_eq_some hother', hpushOther, hpush]
    simp only [Array.setIfInBounds_comm x r hne]
  | none =>
    have hpushOther := push_of_getElem?_eq_none hother
    have hlook' : (report.push x).latest[r.key]? = some position := by
      rwa [hpushOther, getElem?_latest_append, if_neg hkey]
    have hother' : (report.push r).latest[x.key]? = none := hpush ▸ hother
    rw [push_of_getElem?_eq_some hlook', push_of_getElem?_eq_none hother', hpushOther, hpush]
    simp [Report.append, Array.setIfInBounds, hposition, Nat.lt_succ_of_lt hposition, Array.set_push]

theorem Indexed.files_push_iff (h : report.Indexed) {key : Option String × String} :
    (report.push r).Files key ↔ report.Files key ∨ key = r.key := by
  rcases h.push_cases r with ⟨position, hlast, hpush⟩ | ⟨-, hpush⟩
  · have hkeys : (report.push r).toListing.keys = report.toListing.keys := by
      rw [h.toListing_push r, Listing.push_of_lastAt hlast]
      exact Listing.keys_set hlast
    rw [Files, hkeys, Files]
    refine (or_iff_left_of_imp ?_).symm
    rintro rfl
    exact exists_lastAt_iff.1 ⟨position, hlast⟩
  · rw [hpush, Files, toListing_append, Listing.keys_append, List.mem_append, List.mem_singleton, Files]

/-- A push under a key that is filed can wait for pushes under other keys. -/
theorem Indexed.foldl_push_push (h : report.Indexed) (hfiled : report.Files r.key) {records : List Record}
    (hkeys : r.key ∉ records.map Record.key) :
    records.foldl Report.push (report.push r) = (records.foldl Report.push report).push r := by
  induction records generalizing report with
  | nil => rfl
  | cons x rest ih =>
    obtain ⟨hne, hrest⟩ := List.ne_and_not_mem_of_not_mem_cons hkeys
    rw [List.foldl_cons, List.foldl_cons, ← h.push_push_of_key_ne hfiled (Ne.symm hne)]
    exact ih (h.push x) (h.files_push_iff.2 (.inl hfiled)) hrest

/-- A push under a key that is filed is lost if there is a later one under this key. -/
theorem Indexed.foldl_push_push_of_mem (h : report.Indexed) (hfiled : report.Files r.key) {records : List Record}
    (hkeys : r.key ∈ records.map Record.key) :
    records.foldl Report.push (report.push r) = records.foldl Report.push report := by
  induction records generalizing report with
  | nil => cases hkeys
  | cons x rest ih =>
    rw [List.foldl_cons, List.foldl_cons]
    by_cases hkey : x.key = r.key
    · rw [h.push_push_of_key_eq hkey.symm]
    · have hrest : r.key ∈ rest.map Record.key := by simpa [Ne.symm hkey] using hkeys
      rw [← h.push_push_of_key_ne hfiled hkey]
      exact ih (h.push x) (h.files_push_iff.2 (.inl hfiled)) hrest

/-- The report holds the last of the records under each key, where the key is filed last. -/
def Holds (report : Report) (records : List Record) : Prop :=
  ∀ key r, Listing.lastPushed? records key = some r →
    ∃ position, LastAt report.toListing.keys key position ∧ report.records[position]? = some r

/-- A report holds its own records. -/
theorem holds_records (report : Report) : report.Holds report.records.toList := by
  intro key r hr
  obtain ⟨position, hlast, hposition⟩ := Listing.exists_lastAt_of_lastPushed? hr
  exact ⟨position, hlast, by simpa using hposition⟩

/-- Pushing what a report holds changes nothing. -/
theorem Indexed.push_eq_self (h : report.Indexed) (hlast : LastAt report.toListing.keys r.key position)
    (hr : report.records[position]? = some r) : report.push r = report := by
  obtain ⟨hposition, hget⟩ := Array.getElem?_eq_some_iff.1 hr
  rw [push_of_getElem?_eq_some ((h r.key position).2 hlast), Array.setIfInBounds_def]
  simp [hposition, ← hget]

/-- Records that a report holds can be pushed once more without a trace. Those that are not the last under their
key are lost among the later ones. -/
theorem Indexed.foldl_push_eq_self (h : report.Indexed) {records : List Record} (hholds : report.Holds records) :
    records.foldl Report.push report = report := by
  induction records with
  | nil => rfl
  | cons r rest ih =>
    have hrest : report.Holds rest :=
      fun key x hx => hholds key x (by rw [Listing.lastPushed?_cons, hx, Option.some_or])
    rw [List.foldl_cons]
    by_cases hkey : r.key ∈ rest.map Record.key
    · obtain ⟨x, hx⟩ := Option.ne_none_iff_exists'.1 (mt Listing.lastPushed?_eq_none_iff.1 (not_not.2 hkey))
      obtain ⟨position, hlast, -⟩ := hrest r.key x hx
      rw [h.foldl_push_push_of_mem (exists_lastAt_iff.1 ⟨position, hlast⟩) hkey]
      exact ih hrest
    · have hr : Listing.lastPushed? (r :: rest) r.key = some r := by
        rw [Listing.lastPushed?_cons, Listing.lastPushed?_eq_none_iff.2 hkey, Option.none_or, if_pos rfl]
      obtain ⟨position, hlast, hposition⟩ := hholds r.key r hr
      rw [h.push_eq_self hlast hposition]
      exact ih hrest

theorem merge_eq_foldl (report other : Report) :
    report.merge other = other.records.toList.foldl Report.push report := by
  rw [merge, Array.foldl_toList]

theorem Indexed.merge (h : report.Indexed) (other : Report) : (report.merge other).Indexed := by
  rw [merge_eq_foldl]
  exact (h.foldl_push _).1

/-- A report that is merged into itself keeps its records and its index. -/
theorem Indexed.merge_self (h : report.Indexed) : report.merge report = report := by
  rw [merge_eq_foldl]
  exact h.foldl_push_eq_self report.holds_records

/-- What is pushed to a report before it is merged can as well be pushed afterwards. If the push overwrites a
record, the overwritten one gets lost in the merged report too, where the later records have other keys. -/
theorem Indexed.merge_push (h : report.Indexed) {other : Report} (hother : other.Indexed) (r : Record) :
    report.merge (other.push r) = (report.merge other).push r := by
  rw [merge_eq_foldl, merge_eq_foldl]
  rcases hother.push_cases r with ⟨position, hlast, hpush⟩ | ⟨-, hpush⟩
  · obtain ⟨before, old, after, hrecords, rfl, hold, hafter⟩ := hlast.exists_append
    replace hrecords : other.records.toList = before ++ old :: after := hrecords
    have hset : (other.push r).records.toList = before ++ r :: after := by
      rw [hpush, Array.toList_setIfInBounds, hrecords]
      simp
    have hbefore := (h.foldl_push before).1
    rw [hset, hrecords, List.foldl_append, List.foldl_append, List.foldl_cons, List.foldl_cons,
      ← (hbefore.push old).foldl_push_push (hbefore.files_push_iff.2 (.inr hold.symm)) hafter,
      hbefore.push_push_of_key_eq hold]
  · rw [hpush, Report.append, Array.toList_push, List.foldl_append]
    rfl

/-- Reports are merged one after the other or all at once. -/
theorem Indexed.merge_assoc (h : report.Indexed) {other : Report} (hother : other.Indexed) (last : Report) :
    (report.merge other).merge last = report.merge (other.merge last) := by
  rw [merge_eq_foldl, merge_eq_foldl other]
  induction last.records.toList generalizing other with
  | nil => rfl
  | cons r rest ih =>
    rw [List.foldl_cons, List.foldl_cons, ← h.merge_push hother r]
    exact ih (hother.push r)

theorem merge_of_isEmpty {other : Report} (hother : other.isEmpty = true) : report.merge other = report := by
  rw [merge_eq_foldl, Array.isEmpty_iff.1 hother]
  rfl

end Report

theorem History.report_merge (before other : History) :
    (before.merge other).report = before.report.merge other.report := rfl

/-- For all reports that operations lead to, be it that keys repeat in them: merging a report into itself leaves
it as it is, merging a second time adds nothing, an empty report adds nothing, and it makes no difference which of
two merges is done first. The reports are the same with all that they hold, the index included. -/
theorem History.merge_laws (a b c : History) :
    c.report.merge c.report = c.report ∧
    (a.report.merge b.report).merge b.report = a.report.merge b.report ∧
    (b.report.isEmpty = true → a.report.merge b.report = a.report) ∧
    (a.report.merge b.report).merge c.report = a.report.merge (b.report.merge c.report) := by
  have ha := a.indexed_report.1
  have hb := b.indexed_report.1
  refine ⟨c.indexed_report.1.merge_self, ?_, Report.merge_of_isEmpty, ha.merge_assoc hb c.report⟩
  rw [ha.merge_assoc hb, hb.merge_self]

/-- Reports that repeat keys, and one that is empty since no record belongs to the row. -/
theorem History.merge_laws_repeated :
    let first : Record := { target := "a", validator := "first", value := .null }
    let second : Record := { target := "a", validator := "second", value := .null }
    let other : Record := { target := "b", validator := "other", value := .null }
    let a : History := ((History.empty "en").append first).append second
    let b : History := (((History.empty "en").append other).append second).append first
    let none : History := b.forRow .null
    none.report.isEmpty = true ∧ a.report.merge none.report = a.report ∧
      b.report.merge b.report = b.report ∧
      (a.report.merge b.report).merge b.report = a.report.merge b.report ∧
      (a.report.merge b.report).merge a.report = a.report.merge (b.report.merge a.report) ∧
      (a.report.merge b.report).records.toList = [first, first, other] ∧
      ((a.report.merge b.report).merge a.report).records.toList = [first, second, other] := by
  intro first second other a b none
  have hrecords (history : History) : history.report.records.toList = history.listing.records :=
    congrArg Listing.records history.indexed_report.2
  have hnone : none.report.isEmpty = true := by
    rw [Report.isEmpty, Array.isEmpty_iff, ← Array.toList_eq_nil_iff, hrecords]
    rfl
  obtain ⟨-, -, hempty, -⟩ := History.merge_laws a none b
  obtain ⟨-, htwice, -, hassoc⟩ := History.merge_laws a b a
  obtain ⟨hself, -, -, -⟩ := History.merge_laws a a b
  refine ⟨hnone, hempty hnone, hself, htwice, hassoc, ?_, ?_⟩
  · rw [← History.report_merge, hrecords]
    rfl
  · rw [← History.report_merge, ← History.report_merge, hrecords]
    rfl

end FieldRules
