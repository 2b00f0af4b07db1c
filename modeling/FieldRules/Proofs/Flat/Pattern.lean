import FieldRules.Flat.Pattern
import FieldRules.Proofs.Flat.Index
import FieldRules.Proofs.Flat.Path
import FieldRules.Proofs.OrderedMap
import FieldRules.Proofs.Outcome

/-!
The keys that a path pattern addresses: those that its text turns into when positions are written for its
wildcards.
-/

namespace FieldRules

theorem Pattern.compile_eq_ok_iff {text separator : String} {p : Pattern} :
    Pattern.compile text separator = .ok p ↔ p.text = text ∧ p.separator = separator := by
  rw [compile]
  constructor
  · intro h
    split at h
    · split at h
      · cases h
        exact ⟨rfl, rfl⟩
      · cases h
    · cases h
  · rintro ⟨rfl, rfl⟩
    rw [dif_pos p.text_ne_empty, dif_pos p.separator_ne_empty]

theorem FlatView.keys_findMatches (view : FlatView) (p : Pattern) :
    (view.findMatches p).keys = view.keys.filter p.test := by
  rw [OrderedMap.keys, OrderedMap.keys, Assoc.keys, Assoc.keys, List.filter_map]
  rfl

theorem FlatView.entries_findMatches (view : FlatView) (p : Pattern) :
    (view.findMatches p).entries = view.entries.filter fun entry => p.test entry.1 := rfl

/-- A pattern addresses nothing in a view if it addresses none of the keys. -/
theorem FlatView.isEmpty_findMatches_iff {view : FlatView} {p : Pattern} :
    (view.findMatches p).isEmpty = true ↔ ∀ key ∈ view.keys, p.test key = false := by
  rw [OrderedMap.isEmpty, entries_findMatches, List.isEmpty_iff, List.filter_eq_nil_iff]
  simp [OrderedMap.keys, Assoc.keys]

namespace Pattern

/-- A segment of a pattern admits a segment of a key: an asterisk admits the positions, and any other
segment only itself. -/
def Admits (segment part : String) : Prop :=
  if segment = "*" then Path.isIndex part = true else part = segment

instance : DecidableRel Admits := fun _ _ => inferInstanceAs (Decidable (ite _ _ _))

section Runs

variable {s : List Char} {run : List Char × List Char}

theorem mem_digitRuns_iff :
    run ∈ digitRuns s ↔ run.1 ++ run.2 = s ∧ ∀ c ∈ run.1, c.isDigit = true := by
  obtain ⟨digits, rest⟩ := run
  induction s generalizing digits with
  | nil =>
    simp only [digitRuns, List.mem_singleton, Prod.mk.injEq, List.append_eq_nil_iff]
    refine ⟨fun h => ⟨h, by simp [h.1]⟩, And.left⟩
  | cons c s ih =>
    cases digits with
    | nil =>
      rw [digitRuns]
      split <;> simp
    | cons d digits =>
      by_cases hc : c.isDigit = true
      · have hruns : (d :: digits, rest) ∈ digitRuns (c :: s) ↔ d = c ∧ (digits, rest) ∈ digitRuns s := by
          simp [digitRuns, hc, and_comm, and_assoc, eq_comm]
        rw [hruns, ih]
        constructor
        · rintro ⟨rfl, rfl, hdigits⟩
          exact ⟨rfl, List.forall_mem_cons.2 ⟨hc, hdigits⟩⟩
        · rintro ⟨heq, hdigits⟩
          obtain ⟨rfl, hrest⟩ := List.cons.inj heq
          exact ⟨rfl, hrest, (List.forall_mem_cons.1 hdigits).2⟩
      · refine iff_of_false (by simp [digitRuns, hc]) ?_
        rintro ⟨heq, hdigits⟩
        obtain ⟨rfl, -⟩ := List.cons.inj heq
        exact hc (hdigits d List.mem_cons_self)

/-- The positions that a text begins with, with what stands behind each. -/
theorem mem_indexRuns_iff :
    run ∈ indexRuns s ↔ run.1 ++ run.2 = s ∧ Path.isIndexChars run.1 = true := by
  obtain ⟨digits, rest⟩ := run
  rw [Path.isIndexChars_iff]
  cases s with
  | nil =>
    refine iff_of_false (by simp [indexRuns]) ?_
    rintro ⟨heq, hne, -⟩
    exact hne (List.append_eq_nil_iff.1 heq).1
  | cons c s =>
    by_cases hzero : c = '0'
    · subst hzero
      simp only [indexRuns, ↓reduceIte, List.mem_singleton, Prod.mk.injEq]
      constructor
      · rintro ⟨rfl, rfl⟩
        simp
      · rintro ⟨heq, hne, -, hlead⟩
        obtain ⟨d, digits, rfl⟩ := List.exists_cons_of_ne_nil hne
        obtain ⟨rfl, hrest⟩ := List.cons.inj heq
        obtain rfl : digits = [] := by simpa using hlead rfl
        exact ⟨rfl, hrest⟩
    · by_cases hc : c.isDigit = true
      · rw [indexRuns, if_neg hzero, if_pos hc]
        constructor
        · intro h
          obtain ⟨⟨front, behind⟩, hmem, heq⟩ := List.mem_map.1 h
          obtain ⟨rfl, rfl⟩ := Prod.mk.inj heq
          obtain ⟨rfl, hdigits⟩ := mem_digitRuns_iff.1 hmem
          refine ⟨rfl, by simp, List.forall_mem_cons.2 ⟨hc, hdigits⟩, fun hhead => ?_⟩
          exact absurd (by simpa using hhead) hzero
        · rintro ⟨heq, hne, hdigits, -⟩
          obtain ⟨d, digits, rfl⟩ := List.exists_cons_of_ne_nil hne
          obtain ⟨rfl, hrest⟩ := List.cons.inj heq
          refine List.mem_map.2 ⟨(digits, rest), mem_digitRuns_iff.2 ⟨hrest, ?_⟩, rfl⟩
          exact (List.forall_mem_cons.1 hdigits).2
      · refine iff_of_false (by simp [indexRuns, hzero, hc]) ?_
        rintro ⟨heq, hne, hdigits, -⟩
        obtain ⟨d, digits, rfl⟩ := List.exists_cons_of_ne_nil hne
        obtain ⟨rfl, -⟩ := List.cons.inj heq
        exact hc (hdigits d List.mem_cons_self)

end Runs

/-- A key is spelled by pieces, with these texts in the places of positions. -/
inductive Spelled : List Piece → List (List Char) → List Char → Prop
  | nil : Spelled [] [] []
  | text {pieces : List Piece} {texts : List (List Char)} {key : List Char} (chars : List Char)
      (hrest : Spelled pieces texts key) : Spelled (.text chars :: pieces) texts (chars ++ key)
  | index {pieces : List Piece} {texts : List (List Char)} {key digits : List Char}
      (hdigits : Path.isIndexChars digits = true) (hrest : Spelled pieces texts key) :
      Spelled (.index :: pieces) (digits :: texts) (digits ++ key)

section Bind

variable {pieces : List Piece} {texts : List (List Char)} {key : List Char}

theorem spelled_of_bind? (h : bind? pieces key = some texts) : Spelled pieces texts key := by
  induction pieces generalizing key texts with
  | nil =>
    rw [bind?, Option.ite_none_right_eq_some, List.isEmpty_iff] at h
    obtain ⟨rfl, h⟩ := h
    cases h
    exact .nil
  | cons piece pieces ih =>
    cases piece with
    | text chars =>
      rw [bind?, Option.ite_none_right_eq_some, List.isPrefixOf_iff_prefix] at h
      obtain ⟨⟨rest, rfl⟩, h⟩ := h
      rw [List.drop_left] at h
      exact .text chars (ih h)
    | index =>
      rw [bind?] at h
      obtain ⟨run, hrun, h⟩ := List.exists_of_findSome?_eq_some h
      obtain ⟨others, hothers, rfl⟩ := Option.map_eq_some_iff.1 h
      obtain ⟨rfl, hdigits⟩ := mem_indexRuns_iff.1 hrun
      exact .index hdigits (ih hothers)

/-- The search for positions misses no way to spell a key. -/
theorem isSome_bind?_of_spelled (h : Spelled pieces texts key) : (bind? pieces key).isSome = true := by
  induction h with
  | nil => rfl
  | text chars hrest ih =>
    rw [bind?, if_pos (List.isPrefixOf_iff_prefix.2 (List.prefix_append _ _)), List.drop_left]
    exact ih
  | @index _ _ key digits hdigits hrest ih =>
    rw [bind?, List.findSome?_isSome_iff]
    exact ⟨(digits, key), mem_indexRuns_iff.2 ⟨rfl, hdigits⟩, by simpa using ih⟩

theorem isSome_bind?_iff : (bind? pieces key).isSome = true ↔ ∃ texts, Spelled pieces texts key := by
  constructor
  · intro h
    obtain ⟨texts, htexts⟩ := Option.isSome_iff_exists.1 h
    exact ⟨texts, spelled_of_bind? htexts⟩
  · rintro ⟨texts, htexts⟩
    exact isSome_bind?_of_spelled htexts

end Bind

section Segments

variable {pieces : List Piece} {key chars : List Char}

theorem exists_spelled_text_iff :
    (∃ texts, Spelled (.text chars :: pieces) texts key) ↔
      ∃ rest, key = chars ++ rest ∧ ∃ texts, Spelled pieces texts rest := by
  constructor
  · rintro ⟨texts, h⟩
    cases h with
    | text _ hrest => exact ⟨_, rfl, texts, hrest⟩
  · rintro ⟨rest, rfl, texts, hrest⟩
    exact ⟨texts, .text chars hrest⟩

/-- The piece of a segment spells the segments that it admits. -/
theorem exists_spelled_ofSegment_iff (segment : List Char) :
    (∃ texts, Spelled (Piece.ofSegment segment :: pieces) texts key) ↔
      ∃ part rest, Admits (String.ofList segment) (String.ofList part) ∧ key = part ++ rest ∧
        ∃ texts, Spelled pieces texts rest := by
  have hstar : String.ofList segment = "*" ↔ segment = ['*'] := by
    rw [← String.toList_inj, String.toList_ofList]
    rfl
  by_cases hsegment : segment = ['*']
  · simp only [Piece.ofSegment, Admits, hsegment, ↓reduceIte, Path.isIndex, String.toList_ofList]
    constructor
    · rintro ⟨texts, h⟩
      cases h with
      | index hdigits hrest => exact ⟨_, _, hdigits, rfl, _, hrest⟩
    · rintro ⟨digits, rest, hdigits, rfl, texts, hrest⟩
      exact ⟨digits :: texts, .index hdigits hrest⟩
  · simp only [Piece.ofSegment, Admits, hstar, hsegment, ↓reduceIte, String.ofList_inj,
      exists_spelled_text_iff, exists_and_left, exists_eq_left]

/-- The pieces of a pattern spell what its segments turn into when each is replaced by one that it admits. -/
theorem exists_spelled_piecesOf_iff (separator : List Char) {segments : List (List Char)}
    (hne : segments ≠ []) :
    (∃ texts, Spelled (piecesOf separator segments) texts key) ↔
      ∃ parts, List.Forall₂ (fun segment part => Admits (String.ofList segment) (String.ofList part))
        segments parts ∧ key = separator.intercalate parts := by
  induction segments generalizing key with
  | nil => exact absurd rfl hne
  | cons segment segments ih =>
    cases segments with
    | nil =>
      have hpieces : piecesOf separator [segment] = [Piece.ofSegment segment] := rfl
      rw [hpieces, exists_spelled_ofSegment_iff]
      constructor
      · rintro ⟨part, rest, hpart, rfl, texts, hrest⟩
        cases hrest
        exact ⟨[part], .cons hpart .nil, by simp⟩
      · rintro ⟨parts, hparts, rfl⟩
        cases hparts with
        | @cons _ part _ _ hpart hnil =>
          cases hnil
          exact ⟨part, [], hpart, by simp, [], .nil⟩
    | cons next segments =>
      have hpieces : piecesOf separator (segment :: next :: segments) =
          Piece.ofSegment segment :: .text separator :: piecesOf separator (next :: segments) := rfl
      simp only [hpieces, exists_spelled_ofSegment_iff, exists_spelled_text_iff, ih (List.cons_ne_nil _ _)]
      constructor
      · rintro ⟨part, -, hpart, rfl, -, rfl, parts, hparts, rfl⟩
        have hparts_ne : parts ≠ [] := by
          rintro rfl
          cases hparts
        refine ⟨part :: parts, .cons hpart hparts, ?_⟩
        rw [List.intercalate_cons_of_ne_nil hparts_ne, List.append_assoc]
      · rintro ⟨parts, hparts, rfl⟩
        obtain ⟨part, others, hpart, hothers, rfl⟩ := List.forall₂_cons_left_iff.1 hparts
        have hothers_ne : others ≠ [] := by
          rintro rfl
          cases hothers
        refine ⟨part, _, hpart, ?_, _, rfl, others, hothers, rfl⟩
        rw [List.intercalate_cons_of_ne_nil hothers_ne, List.append_assoc]

end Segments

section Test

variable {p : Pattern} {key : String}

/-- A pattern addresses the keys that its segments turn into when each is replaced by one that it admits. -/
theorem test_iff_exists_parts :
    p.test key = true ↔ ∃ parts, List.Forall₂ Admits (Path.segments p.separator p.text) parts ∧
      key = Path.ofSegments p.separator parts := by
  rw [test, isSome_bind?_iff, pieces, segments, exists_spelled_piecesOf_iff _ (Path.cut_ne_nil _ _ _)]
  simp only [Path.segments, List.forall₂_map_left_iff]
  constructor
  · rintro ⟨parts, hparts, hkey⟩
    refine ⟨parts.map String.ofList, ?_, ?_⟩
    · rwa [List.forall₂_map_right_iff]
    · rw [← String.toList_inj, hkey, Path.ofSegments, String.toList_intercalate]
      simp [Function.comp_def]
  · rintro ⟨parts, hparts, rfl⟩
    refine ⟨parts.map String.toList, ?_, ?_⟩
    · simpa [List.forall₂_map_right_iff] using hparts
    · rw [Path.ofSegments, String.toList_intercalate]

theorem Admits.eq_or_avoids {separator segment part : String}
    (hdigit : ∀ c ∈ separator.toList, c.isDigit = false) (h : Admits segment part) :
    part = segment ∨ Path.Avoids separator part := by
  rw [Admits] at h
  split at h
  · refine .inr fun c hc hmem => ?_
    have hc := (Path.isIndexChars_iff.1 h).2.1 c hc
    rw [hdigit c hmem] at hc
    cases hc
  · exact .inl h

/-- Positions that are written for wildcards leave a path cut where the pattern is, unless the separator
could be made of digits. -/
theorem segments_of_admits {separator text : String} (hsep : separator ≠ "")
    (hdigit : ∀ c ∈ separator.toList, c.isDigit = false) {parts : List String}
    (hparts : List.Forall₂ Admits (Path.segments separator text) parts) :
    Path.segments separator (Path.ofSegments separator parts) = parts := by
  have hreplaced : List.Forall₂ (fun piece part => part = piece ∨ ∀ c ∈ part, c ∉ separator.toList)
      (Path.cut separator.toList 0 text.toList) (parts.map String.toList) := by
    rw [Path.segments, List.forall₂_map_left_iff] at hparts
    rw [List.forall₂_map_right_iff]
    refine hparts.imp fun piece part hpart => (hpart.eq_or_avoids hdigit).imp_left ?_
    rintro rfl
    exact String.toList_ofList
  rw [Path.segments, Path.ofSegments, String.toList_intercalate,
    Path.cut_intercalate_of_replaced (Path.toList_ne_nil hsep) hreplaced]
  simp [Function.comp_def]

/-- If the separator holds no digit, a pattern addresses the keys whose segments its own admit one by one. -/
theorem test_iff_forall₂ (hdigit : ∀ c ∈ p.separator.toList, c.isDigit = false) :
    p.test key = true ↔
      List.Forall₂ Admits (Path.segments p.separator p.text) (Path.segments p.separator key) := by
  have hsep : p.separator ≠ "" := by simpa using p.separator_ne_empty
  rw [test_iff_exists_parts]
  constructor
  · rintro ⟨parts, hparts, rfl⟩
    rwa [segments_of_admits hsep hdigit hparts]
  · intro h
    exact ⟨_, h, (Path.ofSegments_segments hsep key).symm⟩

/-- No pattern addresses the empty path. -/
theorem test_empty (hdigit : ∀ c ∈ p.separator.toList, c.isDigit = false) : p.test "" = false := by
  have hsep : p.separator ≠ "" := by simpa using p.separator_ne_empty
  have htext := Path.ofSegments_segments hsep p.text
  rw [Bool.eq_false_iff, Ne, test_iff_forall₂ hdigit, Path.segments_empty]
  intro h
  obtain ⟨segment, segments, hsegment, hnil, hsegments⟩ := List.forall₂_cons_right_iff.1 h
  cases hnil
  rw [Admits] at hsegment
  split at hsegment
  · cases hsegment
  · rw [hsegments, ← hsegment] at htext
    exact absurd p.text_ne_empty (by simp [← htext, Path.ofSegments])

/-- Without a wildcard a pattern addresses its own text alone. -/
theorem test_iff_eq_text (hwildcard : "*" ∉ Path.segments p.separator p.text) :
    p.test key = true ↔ key = p.text := by
  have hsep : p.separator ≠ "" := by simpa using p.separator_ne_empty
  have hadmits {parts : List String} :
      List.Forall₂ Admits (Path.segments p.separator p.text) parts ↔
        Path.segments p.separator p.text = parts := by
    rw [← List.forall₂_eq_eq_eq]
    refine forall₂_congr_of_mem fun segment hsegment part => ?_
    rw [Admits, if_neg, eq_comm]
    rintro rfl
    exact hwildcard hsegment
  simp only [test_iff_exists_parts, hadmits, exists_eq_left', Path.ofSegments_segments hsep]

theorem exists_compile_eq_ok {text separator : String} (htext : text ≠ "") (hsep : separator ≠ "") :
    ∃ p, compile text separator = .ok p :=
  ⟨⟨text, separator, by simpa using htext, by simpa using hsep⟩, compile_eq_ok_iff.2 ⟨rfl, rfl⟩⟩

end Test

end Pattern

end FieldRules
