import FieldRules.Flat.Path
import Mathlib.Data.List.Forall2

/-!
Cutting a path into segments is the inverse of joining them: always in one direction, and in the
other for segments that share no character with the separator.
-/

namespace FieldRules.Path

/-- A segment that shares no character with the separator. -/
def Avoids (separator segment : String) : Prop := ∀ c ∈ segment.toList, c ∉ separator.toList

section Cut

variable {separator : List Char}

theorem cut_skip (separator : List Char) (skip : Nat) (s : List Char) :
    cut separator skip s = cut separator 0 (s.drop skip) := by
  induction s generalizing skip with
  | nil => simp [cut]
  | cons c rest ih =>
    cases skip with
    | zero => simp
    | succ skip => simpa [cut] using ih skip

/-- A separator in front closes an empty first piece. -/
theorem cut_separator_append (hsep : separator ≠ []) (rest : List Char) :
    cut separator 0 (separator ++ rest) = [] :: cut separator 0 rest := by
  obtain ⟨c, tail, rfl⟩ := List.exists_cons_of_ne_nil hsep
  have hbegins : (c :: tail).isPrefixOf (c :: (tail ++ rest)) = true :=
    List.isPrefixOf_iff_prefix.2 ⟨rest, rfl⟩
  rw [List.cons_append, cut, if_pos hbegins, cut_skip]
  simp

theorem cut_cons_of_not_begins {c : Char} {rest : List Char} (h : ¬ separator <+: c :: rest) :
    cut separator 0 (c :: rest) = consFirst c (cut separator 0 rest) := by
  rw [cut, if_neg]
  rwa [List.isPrefixOf_iff_prefix]

theorem consFirst_ne_nil (c : Char) (pieces : List (List Char)) : consFirst c pieces ≠ [] := by
  cases pieces <;> simp [consFirst]

theorem cut_ne_nil (separator : List Char) (skip : Nat) (s : List Char) :
    cut separator skip s ≠ [] := by
  fun_induction cut separator skip s with
  | case1 => simp
  | case2 _ _ _ ih => exact ih
  | case3 => simp
  | case4 => exact consFirst_ne_nil _ _

theorem intercalate_consFirst (c : Char) {pieces : List (List Char)} (hne : pieces ≠ []) :
    separator.intercalate (consFirst c pieces) = c :: separator.intercalate pieces := by
  match pieces, hne with
  | [piece], _ => simp [consFirst, List.intercalate]
  | piece :: next :: rest, _ => simp [consFirst, List.intercalate]

/-- The pieces with the separator between them are the text again. The induction is on the text's
length, since a separator is passed over in one go. -/
theorem intercalate_cut (hsep : separator ≠ []) (s : List Char) :
    separator.intercalate (cut separator 0 s) = s := by
  match s with
  | [] => simp [cut, List.intercalate]
  | c :: rest =>
    by_cases hbegins : separator <+: c :: rest
    · obtain ⟨tail, htail⟩ := hbegins
      have hshorter : tail.length < (c :: rest).length := by
        have hpos := List.length_pos_iff.2 hsep
        simp only [← htail, List.length_append]
        omega
      have ih := intercalate_cut hsep tail
      rw [← htail, cut_separator_append hsep]
      obtain ⟨piece, pieces, hcut⟩ := List.exists_cons_of_ne_nil (cut_ne_nil separator 0 tail)
      rw [hcut] at ih ⊢
      simpa [List.intercalate] using ih
    · rw [cut_cons_of_not_begins hbegins, intercalate_consFirst c (cut_ne_nil separator 0 rest),
        intercalate_cut hsep rest]
termination_by s.length
decreasing_by
  · exact hshorter
  · exact Nat.lt_succ_self rest.length

private theorem not_prefix_of_avoids {c : Char} {rest : List Char} (hsep : separator ≠ [])
    (hc : c ∉ separator) : ¬ separator <+: c :: rest := by
  obtain ⟨d, tail, rfl⟩ := List.exists_cons_of_ne_nil hsep
  intro hbegins
  have hd : d = c := (List.cons_prefix_cons.1 hbegins).1
  exact hc (by simp [hd])

theorem cut_of_avoids (hsep : separator ≠ []) {piece : List Char} (h : ∀ c ∈ piece, c ∉ separator) :
    cut separator 0 piece = [piece] := by
  induction piece with
  | nil => simp [cut]
  | cons c rest ih =>
    obtain ⟨hc, hrest⟩ := List.forall_mem_cons.1 h
    rw [cut_cons_of_not_begins (not_prefix_of_avoids hsep hc), ih hrest, consFirst]

theorem cut_append_of_avoids (hsep : separator ≠ []) {piece : List Char}
    (h : ∀ c ∈ piece, c ∉ separator) (rest : List Char) :
    cut separator 0 (piece ++ (separator ++ rest)) = piece :: cut separator 0 rest := by
  induction piece with
  | nil => simpa using cut_separator_append hsep rest
  | cons c tail ih =>
    obtain ⟨hc, htail⟩ := List.forall_mem_cons.1 h
    rw [List.cons_append, cut_cons_of_not_begins (not_prefix_of_avoids hsep hc), ih htail, consFirst]

theorem cut_intercalate (hsep : separator ≠ []) {pieces : List (List Char)} (hne : pieces ≠ [])
    (h : ∀ piece ∈ pieces, ∀ c ∈ piece, c ∉ separator) :
    cut separator 0 (separator.intercalate pieces) = pieces := by
  induction pieces with
  | nil => exact absurd rfl hne
  | cons piece rest ih =>
    obtain ⟨hpiece, hrest⟩ := List.forall_mem_cons.1 h
    cases rest with
    | nil => simpa [List.intercalate] using cut_of_avoids hsep hpiece
    | cons next rest =>
      rw [List.intercalate_cons_cons, List.append_assoc, cut_append_of_avoids hsep hpiece, ih (by simp) hrest]

/-- What stands in front of the first separator is the first piece, and the rest is cut on its own. -/
theorem exists_append_of_cut_eq_cons (hsep : separator ≠ []) {s piece next : List Char}
    {pieces : List (List Char)} (h : cut separator 0 s = piece :: next :: pieces) :
    ∃ rest, s = piece ++ (separator ++ rest) ∧ cut separator 0 rest = next :: pieces := by
  induction s generalizing piece with
  | nil => simp [cut] at h
  | cons c tail ih =>
    by_cases hbegins : separator <+: c :: tail
    · obtain ⟨rest, hrest⟩ := hbegins
      rw [← hrest, cut_separator_append hsep, List.cons.injEq] at h
      obtain ⟨rfl, hpieces⟩ := h
      exact ⟨rest, hrest.symm, hpieces⟩
    · rw [cut_cons_of_not_begins hbegins] at h
      obtain ⟨first, others, hcut⟩ := List.exists_cons_of_ne_nil (cut_ne_nil separator 0 tail)
      rw [hcut, consFirst, List.cons.injEq] at h
      obtain ⟨rfl, rfl⟩ := h
      obtain ⟨rest, rfl, hrest⟩ := ih hcut
      exact ⟨rest, rfl, hrest⟩

/-- Whether a separator starts within a piece does not depend on what follows behind the separator that
ends the piece. -/
theorem cut_append_of_cut_eq_cons (hsep : separator ≠ []) {piece rest : List Char}
    (h : cut separator 0 (piece ++ (separator ++ rest)) = piece :: cut separator 0 rest)
    (other : List Char) :
    cut separator 0 (piece ++ (separator ++ other)) = piece :: cut separator 0 other := by
  induction piece with
  | nil => exact cut_separator_append hsep other
  | cons c tail ih =>
    have hbegins (behind : List Char) : separator <+: c :: (tail ++ (separator ++ behind)) ↔
        separator <+: c :: (tail ++ separator) := by
      have happend : c :: (tail ++ (separator ++ behind)) = c :: (tail ++ separator) ++ behind := by simp
      rw [happend]
      constructor
      · intro hprefix
        refine List.prefix_of_prefix_length_le hprefix (List.prefix_append _ _) ?_
        simp only [List.length_cons, List.length_append]
        omega
      · exact fun hprefix => hprefix.trans (List.prefix_append _ _)
    rw [List.cons_append] at h ⊢
    by_cases hfirst : separator <+: c :: (tail ++ (separator ++ rest))
    · -- A separator in front would make the first piece empty.
      obtain ⟨behind, hbehind⟩ := hfirst
      rw [← hbehind, cut_separator_append hsep] at h
      cases h
    · have hother : ¬ separator <+: c :: (tail ++ (separator ++ other)) := by
        rwa [hbegins, ← hbegins rest]
      rw [cut_cons_of_not_begins hfirst] at h
      rw [cut_cons_of_not_begins hother]
      obtain ⟨first, others, hcut⟩ :=
        List.exists_cons_of_ne_nil (cut_ne_nil separator 0 (tail ++ (separator ++ rest)))
      rw [hcut, consFirst, List.cons.injEq, List.cons.injEq] at h
      obtain ⟨⟨-, rfl⟩, rfl⟩ := h
      rw [ih hcut, consFirst]

/-- A piece in front of a separator is not cut when it stands alone. -/
theorem cut_of_cut_append_eq_cons (hsep : separator ≠ []) {piece rest : List Char}
    (h : cut separator 0 (piece ++ (separator ++ rest)) = piece :: cut separator 0 rest) :
    cut separator 0 piece = [piece] := by
  induction piece with
  | nil => simp [cut]
  | cons c tail ih =>
    rw [List.cons_append] at h
    by_cases hfirst : separator <+: c :: (tail ++ (separator ++ rest))
    · -- A separator in front would make the first piece empty.
      obtain ⟨behind, hbehind⟩ := hfirst
      rw [← hbehind, cut_separator_append hsep] at h
      cases h
    · have halone : ¬ separator <+: c :: tail := by
        intro hbegins
        rw [← List.cons_append] at hfirst
        exact hfirst (hbegins.trans (List.prefix_append _ _))
      rw [cut_cons_of_not_begins hfirst] at h
      obtain ⟨first, others, hcut⟩ :=
        List.exists_cons_of_ne_nil (cut_ne_nil separator 0 (tail ++ (separator ++ rest)))
      rw [hcut, consFirst, List.cons.injEq, List.cons.injEq] at h
      obtain ⟨⟨-, rfl⟩, rfl⟩ := h
      rw [cut_cons_of_not_begins halone, ih hcut, consFirst]

/-- A text is cut at the same places when some of its pieces are replaced by texts that share no character
with the separator. -/
theorem cut_intercalate_of_replaced (hsep : separator ≠ []) {s : List Char} {parts : List (List Char)}
    (h : List.Forall₂ (fun piece part => part = piece ∨ ∀ c ∈ part, c ∉ separator) (cut separator 0 s) parts) :
    cut separator 0 (separator.intercalate parts) = parts := by
  generalize hcut : cut separator 0 s = pieces at h
  induction h generalizing s with
  | nil => exact absurd hcut (cut_ne_nil separator 0 s)
  | @cons piece part pieces parts hpart hparts ih =>
    cases hparts with
    | nil =>
      rw [List.intercalate_singleton]
      rcases hpart with rfl | havoids
      · have hwhole := intercalate_cut hsep s
        rw [hcut, List.intercalate_singleton] at hwhole
        rwa [hwhole] at hcut ⊢
      · exact cut_of_avoids hsep havoids
    | @cons next other pieces parts hother hparts =>
      obtain ⟨rest, rfl, hrest⟩ := exists_append_of_cut_eq_cons hsep hcut
      have hbehind := ih hrest
      rw [List.intercalate_cons_cons, List.append_assoc]
      rcases hpart with rfl | havoids
      · rw [cut_append_of_cut_eq_cons hsep (hrest ▸ hcut), hbehind]
      · rw [cut_append_of_avoids hsep havoids, hbehind]

/-- A text that ends with a piece is cut there and in front of it as a text is in which another piece stands
there. -/
theorem cut_intercalate_of_replaced_last (hsep : separator ≠ []) {s piece other : List Char}
    {front rest : List (List Char)} (h : cut separator 0 s = front ++ piece :: rest)
    (hother : ∀ c ∈ other, c ∉ separator) :
    cut separator 0 (separator.intercalate (front ++ [other])) = front ++ [other] := by
  induction front generalizing s with
  | nil => simpa [List.intercalate] using cut_of_avoids hsep hother
  | cons first front ih =>
    obtain ⟨next, pieces, hnext⟩ := List.exists_cons_of_ne_nil (List.append_ne_nil_of_right_ne_nil front
      (List.cons_ne_nil piece rest))
    obtain ⟨second, others, hsecond⟩ := List.exists_cons_of_ne_nil (List.append_ne_nil_of_right_ne_nil front
      (List.cons_ne_nil other []))
    rw [List.cons_append, hnext] at h
    obtain ⟨behind, rfl, hbehind⟩ := exists_append_of_cut_eq_cons hsep h
    have hothers := ih (hbehind.trans hnext.symm)
    rw [List.cons_append, hsecond, List.intercalate_cons_cons, List.append_assoc,
      cut_append_of_cut_eq_cons hsep (hbehind ▸ h), ← hsecond, hothers]

/-- The first pieces of a text are found again when they alone are joined. -/
theorem cut_intercalate_of_append (hsep : separator ≠ []) {s : List Char} {front rest : List (List Char)}
    (hne : front ≠ []) (h : cut separator 0 s = front ++ rest) :
    cut separator 0 (separator.intercalate front) = front := by
  induction front generalizing s with
  | nil => exact absurd rfl hne
  | cons piece front ih =>
    cases front with
    | nil =>
      rw [List.intercalate_singleton]
      cases rest with
      | nil =>
        have hwhole := intercalate_cut hsep s
        rw [h, List.append_nil, List.intercalate_singleton] at hwhole
        rw [hwhole, h, hwhole, List.append_nil]
      | cons next rest =>
        obtain ⟨behind, rfl, hbehind⟩ := exists_append_of_cut_eq_cons hsep h
        exact cut_of_cut_append_eq_cons hsep (h.trans (by rw [hbehind]; rfl))
    | cons next front =>
      obtain ⟨behind, rfl, hbehind⟩ := exists_append_of_cut_eq_cons hsep h
      rw [List.intercalate_cons_cons, List.append_assoc,
        cut_append_of_cut_eq_cons hsep (h.trans (by rw [hbehind]; rfl)), ih (by simp) hbehind]

end Cut

variable {separator : String}

theorem toList_ne_nil (hsep : separator ≠ "") : separator.toList ≠ [] := by
  simpa using hsep

theorem segments_ne_nil (separator path : String) : segments separator path ≠ [] := by
  simpa [segments] using cut_ne_nil separator.toList 0 path.toList

/-- A path is its segments joined, whatever they contain. -/
theorem ofSegments_segments (hsep : separator ≠ "") (path : String) :
    ofSegments separator (segments separator path) = path := by
  apply String.toList_inj.1
  have hmap : (segments separator path).map String.toList = cut separator.toList 0 path.toList := by
    simp [segments, Function.comp_def]
  rw [ofSegments, String.toList_intercalate, hmap, intercalate_cut (toList_ne_nil hsep)]

theorem segments_inj (hsep : separator ≠ "") {path other : String} :
    segments separator path = segments separator other ↔ path = other := by
  constructor
  · intro h
    rw [← ofSegments_segments hsep path, h, ofSegments_segments hsep]
  · exact congrArg _

/-- Segments that avoid the separator are found again in the path that they make. -/
theorem segments_ofSegments (hsep : separator ≠ "") {parts : List String} (hne : parts ≠ [])
    (h : ∀ part ∈ parts, Avoids separator part) :
    segments separator (ofSegments separator parts) = parts := by
  have hnonempty : parts.map String.toList ≠ [] := by simpa using hne
  have hcut := cut_intercalate (toList_ne_nil hsep) hnonempty (by simpa [Avoids] using h)
  rw [segments, ofSegments, String.toList_intercalate, hcut]
  simp [Function.comp_def]

/-- Behind the segments in front of one of a path's segments, a segment that avoids the separator is found
again. -/
theorem segments_ofSegments_of_prefix (hsep : separator ≠ "") {path segment other : String}
    {front : List String} (h : front ++ [segment] <+: segments separator path) (hother : Avoids separator other) :
    segments separator (ofSegments separator (front ++ [other])) = front ++ [other] := by
  obtain ⟨rest, hrest⟩ := h
  have hcut : cut separator.toList 0 path.toList =
      front.map String.toList ++ segment.toList :: rest.map String.toList := by
    have hmap := congrArg (List.map String.toList) hrest
    simpa [segments, Function.comp_def] using hmap.symm
  have hfound := cut_intercalate_of_replaced_last (toList_ne_nil hsep) hcut hother
  rw [segments, ofSegments, String.toList_intercalate, List.map_append, List.map_singleton, hfound]
  simp [Function.comp_def]

/-- The first segments of a path are found again in the path that they make. -/
theorem segments_ofSegments_of_isPrefix (hsep : separator ≠ "") {path : String} {front : List String}
    (hne : front ≠ []) (h : front <+: segments separator path) :
    segments separator (ofSegments separator front) = front := by
  obtain ⟨rest, hrest⟩ := h
  have hcut : cut separator.toList 0 path.toList = front.map String.toList ++ rest.map String.toList := by
    have hmap := congrArg (List.map String.toList) hrest
    simpa [segments, Function.comp_def] using hmap.symm
  have hfound := cut_intercalate_of_append (toList_ne_nil hsep) (by simpa using hne) hcut
  rw [segments, ofSegments, String.toList_intercalate, hfound]
  simp [Function.comp_def]

theorem segments_separator_append (hsep : separator ≠ "") (path : String) :
    segments separator (separator ++ path) = "" :: segments separator path := by
  simp [segments, cut_separator_append (toList_ne_nil hsep)]

/-- Only a path with the separator in front has an empty segment in front of others. -/
theorem exists_segments_eq_cons_empty_iff (hsep : separator ≠ "") {path : String} (hpath : path ≠ "") :
    (∃ rest, segments separator path = "" :: rest) ↔ separator.toList <+: path.toList := by
  constructor
  · rintro ⟨rest, hsegments⟩
    have hcut : cut separator.toList 0 path.toList = [] :: rest.map String.toList := by
      have hmap := congrArg (List.map String.toList) hsegments
      simpa [segments, Function.comp_def] using hmap
    cases hrest : rest.map String.toList with
    | nil =>
      have hwhole := intercalate_cut (toList_ne_nil hsep) path.toList
      rw [hcut, hrest, List.intercalate_singleton] at hwhole
      exact absurd (String.toList_inj.1 hwhole.symm) hpath
    | cons next pieces =>
      rw [hrest] at hcut
      obtain ⟨behind, hbehind, -⟩ := exists_append_of_cut_eq_cons (toList_ne_nil hsep) hcut
      exact ⟨behind, hbehind.symm⟩
  · rintro ⟨behind, hbehind⟩
    obtain rfl : separator ++ String.ofList behind = path := String.toList_inj.1 (by simpa using hbehind)
    exact ⟨_, segments_separator_append hsep _⟩

@[simp] theorem segments_empty (separator : String) : segments separator "" = [""] := by
  simp [segments, cut]

/-- A path continued by segments one after the other. -/
def descend (separator path : String) (parts : List String) : String :=
  parts.foldl (fun path part => join path part separator) path

@[simp] theorem descend_nil (separator path : String) : descend separator path [] = path := rfl

@[simp] theorem descend_cons (separator path part : String) (parts : List String) :
    descend separator path (part :: parts) = descend separator (join path part separator) parts := rfl

theorem join_of_ne_empty {path : String} (hpath : path ≠ "") (part separator : String) :
    join path part separator = path ++ separator ++ part := by
  simp [join, hpath]

@[simp] theorem join_empty (part separator : String) : join "" part separator = part := rfl

/-- Behind a path that is not empty, continuing is joining. -/
theorem descend_eq_ofSegments {path : String} (hpath : path ≠ "") (parts : List String) :
    descend separator path parts = ofSegments separator (path :: parts) := by
  induction parts generalizing path with
  | nil => simp [ofSegments]
  | cons part rest ih =>
    have hne : path ++ separator ++ part ≠ "" := by simp [hpath]
    rw [descend_cons, join_of_ne_empty hpath, ih hne, ofSegments, ofSegments,
      String.append_assoc, String.intercalate_cons_append]
    cases rest with
    | nil => simp [String.append_assoc]
    | cons next rest => simp [String.append_assoc]

theorem descend_empty_eq_ofSegments {parts : List String} (h : ∀ rest, parts ≠ "" :: rest) :
    descend separator "" parts = ofSegments separator parts := by
  cases parts with
  | nil => rfl
  | cons part rest =>
    have hpart : part ≠ "" := fun heq => h rest (by rw [heq])
    rw [descend_cons, join_empty, descend_eq_ofSegments hpart]

/-- From the empty path, empty segments in front leave no trace. -/
theorem descend_empty (separator : String) (parts : List String) :
    descend separator "" parts = ofSegments separator (parts.dropWhile (· = "")) := by
  induction parts with
  | nil => simp [ofSegments]
  | cons part rest ih =>
    by_cases hpart : part = ""
    · simpa [hpart] using ih
    · simp [hpart, descend_eq_ofSegments]

/-- Segments that are found again in the path that they make are found again without the empty ones in front. -/
theorem segments_ofSegments_dropWhile (hsep : separator ≠ "") {parts : List String}
    (h : segments separator (ofSegments separator parts) = parts) (hne : parts.dropWhile (· = "") ≠ []) :
    segments separator (ofSegments separator (parts.dropWhile (· = ""))) = parts.dropWhile (· = "") := by
  induction parts with
  | nil => exact absurd rfl hne
  | cons part rest ih =>
    by_cases hpart : part = ""
    · subst hpart
      cases rest with
      | nil => simp at hne
      | cons next rest =>
        have hsplit : ofSegments separator ("" :: next :: rest) =
            separator ++ ofSegments separator (next :: rest) := by simp [ofSegments]
        rw [hsplit, segments_separator_append hsep, List.cons.injEq] at h
        simpa using ih h.2 (by simpa using hne)
    · simpa [hpart] using h

/-- From the empty path, segments that are found again make no path with the separator in front. -/
theorem segments_descend_empty_ne (hsep : separator ≠ "") {parts : List String}
    (h : segments separator (ofSegments separator parts) = parts) (hne : descend separator "" parts ≠ "")
    (rest : List String) : segments separator (descend separator "" parts) ≠ "" :: rest := by
  rw [descend_empty] at hne ⊢
  have hparts : parts.dropWhile (· = "") ≠ [] := by
    intro hnil
    simp [hnil, ofSegments] at hne
  rw [segments_ofSegments_dropWhile hsep h hparts]
  intro heq
  have hhead := List.head_dropWhile_not (· = "") hparts
  simp [heq] at hhead

/-- Segments that avoid the separator and begin with a text are found again in the path from the root. -/
theorem segments_descend_empty (hsep : separator ≠ "") {part : String} {rest : List String}
    (hpart : part ≠ "") (h : ∀ other ∈ part :: rest, Avoids separator other) :
    segments separator (descend separator "" (part :: rest)) = part :: rest := by
  rw [descend_cons, join_empty, descend_eq_ofSegments hpart, segments_ofSegments hsep (by simp) h]

end FieldRules.Path
