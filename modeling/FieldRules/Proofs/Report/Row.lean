import FieldRules.Proofs.Json.Compact
import FieldRules.Proofs.Report.Merge

/-!
Selecting a row commutes with combining reports. A row is selected by the value of its identity and a record is
overwritten by the text of it, and what has one text has one value. So of the records under a key either all are
selected or none, and a push under one key does not disturb the order of the records of another row.
-/

namespace FieldRules

namespace Listing

variable {p : Record → Bool} {r : Record} {records : List Record}

/-- The record belongs to the row. -/
def isOfRow (rowId : Json) (r : Record) : Bool := r.rowId.any (·.sameValue rowId)

/-- Records under one key have one identity, so that they belong to the same rows. -/
theorem isOfRow_eq_of_key_eq {x : Record} (h : r.key = x.key) (rowId : Json) : isOfRow rowId r = isOfRow rowId x := by
  have htexts : r.rowId.map Json.compact = x.rowId.map Json.compact := (Prod.mk.inj h).1
  have hsame : r.rowId = x.rowId := Option.map_injective (fun _ _ => Json.compact_inj.1) htexts
  rw [isOfRow, hsame, isOfRow]

/-- Overwriting the last record under a key commutes with a selection that takes all records under the key. -/
theorem overwrite?_filter_of_pos (hr : p r = true) (hp : ∀ x, x.key = r.key → p x = true) :
    overwrite? r (records.filter p) = (overwrite? r records).map (·.filter p) := by
  induction records with
  | nil => rfl
  | cons first rest ih =>
    by_cases hfirst : p first = true
    · rw [List.filter_cons_of_pos hfirst, overwrite?, overwrite?, ih]
      cases overwrite? r rest with
      | some overwritten => simp [hfirst]
      | none =>
        by_cases hkey : first.key = r.key <;> simp [hkey, hr]
    · -- A record that is not selected has another key, so that it is not the one to overwrite.
      have hkey : first.key ≠ r.key := mt (hp first) hfirst
      rw [List.filter_cons_of_neg hfirst, ih, overwrite?]
      cases overwrite? r rest with
      | some overwritten => simp [hfirst]
      | none => simp [hkey]

/-- Overwriting a record that is not selected, where no record under its key is, leaves the selection as it is. -/
theorem filter_overwrite?_of_neg {overwritten : List Record} (hr : p r = false) (hp : ∀ x, x.key = r.key → p x = false)
    (h : overwrite? r records = some overwritten) : overwritten.filter p = records.filter p := by
  induction records generalizing overwritten with
  | nil => cases h
  | cons first rest ih =>
    rw [overwrite?] at h
    cases hrest : overwrite? r rest with
    | some later =>
      rw [hrest] at h
      cases h
      rw [List.filter_cons, List.filter_cons, ih hrest]
    | none =>
      rw [hrest] at h
      obtain ⟨hkey, rfl⟩ : first.key = r.key ∧ r :: rest = overwritten := by simpa using h
      rw [List.filter_cons_of_neg (by simp [hr]), List.filter_cons_of_neg (by simp [hp first hkey])]

theorem forRow_eq (listing : Listing) (rowId : Json) :
    listing.forRow rowId = ⟨listing.locale, listing.records.filter (isOfRow rowId)⟩ := rfl

/-- A push of a record of the row is a push to what is selected, and any other leaves that as it is. -/
theorem forRow_push (listing : Listing) (r : Record) (rowId : Json) :
    (listing.push r).forRow rowId =
      if isOfRow rowId r = true then (listing.forRow rowId).push r else listing.forRow rowId := by
  have hsame (x : Record) (hx : x.key = r.key) : isOfRow rowId x = isOfRow rowId r := isOfRow_eq_of_key_eq hx rowId
  rw [forRow_eq, forRow_eq, push, push]
  cases hr : isOfRow rowId r with
  | true =>
    rw [if_pos rfl, overwrite?_filter_of_pos hr fun x hx => (hsame x hx).trans hr]
    cases overwrite? r listing.records <;> simp [hr]
  | false =>
    rw [if_neg (by simp)]
    cases hover : overwrite? r listing.records with
    | none => simp [hr]
    | some overwritten =>
      rw [Option.getD_some, filter_overwrite?_of_neg hr (fun x hx => (hsame x hx).trans hr) hover]

/-- Selecting a row commutes with pushing records, those of the row being pushed to what is selected. -/
theorem forRow_foldl_push (listing : Listing) (records : List Record) (rowId : Json) :
    (records.foldl push listing).forRow rowId =
      (records.filter (isOfRow rowId)).foldl push (listing.forRow rowId) := by
  induction records generalizing listing with
  | nil => rfl
  | cons r rest ih =>
    rw [List.foldl_cons, ih, forRow_push]
    by_cases hr : isOfRow rowId r = true
    · rw [if_pos hr, List.filter_cons_of_pos hr, List.foldl_cons]
    · rw [if_neg hr, List.filter_cons_of_neg hr]

theorem forRow_merge (listing other : Listing) (rowId : Json) :
    (listing.merge other).forRow rowId = (listing.forRow rowId).merge (other.forRow rowId) :=
  forRow_foldl_push listing other.records rowId

theorem forRow_appendAll (listing other : Listing) (rowId : Json) :
    (listing.appendAll other).forRow rowId = (listing.forRow rowId).appendAll (other.forRow rowId) := by
  rw [forRow_eq, forRow_eq, forRow_eq, appendAll, appendAll, List.filter_append]

end Listing

namespace Report

variable {report other : Report} {listing : Listing} {r : Record}

/-- The report that appending the records one after the other leads to. -/
def ofListing (listing : Listing) : Report := listing.records.foldl append { locale := listing.locale }

theorem toListing_ofListing (listing : Listing) : (ofListing listing).toListing = listing := by
  rw [ofListing, toListing_foldl_append]
  rfl

theorem indexed_ofListing (listing : Listing) : (ofListing listing).Indexed :=
  (indexed_empty listing.locale).foldl_append listing.records

theorem eq_of_toListing_eq (h : report.toListing = other.toListing) (hlatest : report.latest = other.latest) :
    report = other := by
  obtain ⟨locale, records, latest⟩ := report
  obtain ⟨locale', records', latest'⟩ := other
  obtain ⟨rfl, hrecords⟩ := Listing.mk.inj h
  obtain rfl : records = records' := Array.toList_inj.1 hrecords
  obtain rfl : latest = latest' := hlatest
  rfl

/-- The index that appending leaves behind depends on the keys of the records alone. -/
theorem latest_foldl_append_congr {records others : List Record} (hlatest : report.latest = other.latest)
    (hsize : report.records.size = other.records.size) (hkeys : records.map Record.key = others.map Record.key) :
    (records.foldl append report).latest = (others.foldl append other).latest := by
  induction records generalizing report other others with
  | nil =>
    obtain rfl : others = [] := by simpa using hkeys.symm
    exact hlatest
  | cons first rest ih =>
    cases others with
    | nil => cases hkeys
    | cons x others =>
      obtain ⟨hkey, hrest⟩ := List.cons.inj hkeys
      rw [List.foldl_cons, List.foldl_cons]
      refine ih ?_ ?_ hrest
      · simp [append, hlatest, hsize, hkey]
      · simp [append, hsize]

theorem ofListing_append (listing : Listing) (r : Record) :
    ofListing (listing.append r) = (ofListing listing).append r := by
  rw [ofListing, Listing.append, List.foldl_append]
  rfl

/-- A record that overwrites another one leaves no trace of it. -/
theorem ofListing_set {position : Nat} (h : LastAt listing.keys r.key position) :
    ofListing { listing with records := listing.records.set position r } =
      { ofListing listing with records := (ofListing listing).records.setIfInBounds position r } := by
  have hrecords : (ofListing listing).records.toList = listing.records :=
    congrArg Listing.records (toListing_ofListing listing)
  refine eq_of_toListing_eq ?_ (latest_foldl_append_congr rfl rfl (Listing.keys_set h))
  rw [toListing_ofListing, toListing, Array.toList_setIfInBounds, hrecords]
  exact congrArg (Listing.mk · _) (congrArg Listing.locale (toListing_ofListing listing)).symm

theorem ofListing_push (listing : Listing) (r : Record) :
    ofListing (listing.push r) = (ofListing listing).push r := by
  rcases (indexed_ofListing listing).push_cases r with ⟨position, hlast, hpush⟩ | ⟨hfresh, hpush⟩
  · rw [toListing_ofListing] at hlast
    rw [hpush, Listing.push_of_lastAt hlast, ofListing_set hlast]
  · rw [toListing_ofListing] at hfresh
    rw [hpush, Listing.push_of_not_mem hfresh, ofListing_append]

theorem ofListing_merge (listing other : Listing) :
    ofListing (listing.merge other) = other.records.foldl push (ofListing listing) := by
  rw [Listing.merge]
  induction other.records generalizing listing with
  | nil => rfl
  | cons r rest ih => rw [List.foldl_cons, List.foldl_cons, ih, ofListing_push]

end Report

namespace History

/-- Every report is the one that appending the records it holds leads to, be it that some of them overwrote others. -/
theorem report_eq_ofListing (history : History) : history.report = Report.ofListing history.listing := by
  induction history with
  | empty locale => rfl
  | addError before validator target message value ih =>
    rw [listing, Report.ofListing_push, ← ih, ← before.indexed_report.2]
    rfl
  | addErrorForRow before validator target message value rowId ih =>
    rw [listing, Report.ofListing_push, ← ih, ← before.indexed_report.2]
    rfl
  | push before r ih => rw [report, listing, Report.ofListing_push, ← ih]
  | append before r ih => rw [report, listing, Report.ofListing_append, ← ih]
  | appendAll before other ih _ =>
    rw [report, Report.appendAll, ← Array.foldl_toList, ih, listing, ← other.indexed_report.2, Report.ofListing,
      Report.ofListing, Listing.appendAll, List.foldl_append]
    rfl
  | merge before other ih _ =>
    rw [report, Report.merge_eq_foldl, ih, listing, ← other.indexed_report.2, Report.ofListing_merge]
    rfl
  | forRow before rowId _ =>
    rw [report, Report.forRow, ← Array.foldl_toList, Array.toList_filter, listing, ← before.indexed_report.2]
    rfl

/-- For all reports that operations lead to, be it that keys repeat in them, and for every identity: the records of
a row are selected from merged or joined reports as they are from each report before these are merged or joined. The
reports are the same with all that they hold, the index included. -/
theorem forRow_combine (a b : History) (rowId : Json) :
    (a.report.merge b.report).forRow rowId = (a.report.forRow rowId).merge (b.report.forRow rowId) ∧
    (a.report.appendAll b.report).forRow rowId = (a.report.forRow rowId).appendAll (b.report.forRow rowId) := by
  constructor
  · calc (a.report.merge b.report).forRow rowId = ((a.merge b).forRow rowId).report := rfl
      _ = .ofListing ((a.listing.merge b.listing).forRow rowId) := report_eq_ofListing _
      _ = .ofListing ((a.listing.forRow rowId).merge (b.listing.forRow rowId)) := by rw [Listing.forRow_merge]
      _ = ((a.forRow rowId).merge (b.forRow rowId)).report :=
        (report_eq_ofListing ((a.forRow rowId).merge (b.forRow rowId))).symm
      _ = (a.report.forRow rowId).merge (b.report.forRow rowId) := rfl
  · calc (a.report.appendAll b.report).forRow rowId = ((a.appendAll b).forRow rowId).report := rfl
      _ = .ofListing ((a.listing.appendAll b.listing).forRow rowId) := report_eq_ofListing _
      _ = .ofListing ((a.listing.forRow rowId).appendAll (b.listing.forRow rowId)) := by
        rw [Listing.forRow_appendAll]
      _ = ((a.forRow rowId).appendAll (b.forRow rowId)).report :=
        (report_eq_ofListing ((a.forRow rowId).appendAll (b.forRow rowId))).symm
      _ = (a.report.forRow rowId).appendAll (b.report.forRow rowId) := rfl

end History

end FieldRules
