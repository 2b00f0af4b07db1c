import FieldRules.Proofs.Flat.Pattern
import Mathlib.Algebra.Group.Nat.Defs

/-!
The positions that a pattern reads off a key. They are those that have to be written for its wildcards to make the
key, and unless the separator holds a digit there is only one way to do this.
-/

namespace FieldRules.Pattern

/-- Segments with positions written for the asterisks among them, from left to right. -/
def written : List String → List Nat → List String
  | [], _ => []
  | segment :: segments, positions =>
    if segment = "*" then
      match positions with
      | [] => segment :: written segments []
      | n :: positions => Path.ofIndex n :: written segments positions
    else segment :: written segments positions

/-- There is one position for each asterisk among the segments. -/
abbrev Fits (segments : List String) (positions : List Nat) : Prop := positions.length = segments.count "*"

section Written

variable {segment : String} {segments parts : List String} {positions others : List Nat}

theorem written_star_cons (segments : List String) (n : Nat) (positions : List Nat) :
    written ("*" :: segments) (n :: positions) = Path.ofIndex n :: written segments positions := rfl

theorem written_cons_of_ne (hsegment : segment ≠ "*") (segments : List String) (positions : List Nat) :
    written (segment :: segments) positions = segment :: written segments positions := by
  rw [written.eq_def]
  exact if_neg hsegment

theorem fits_cons_of_ne (hsegment : segment ≠ "*") :
    Fits (segment :: segments) positions ↔ Fits segments positions := by
  rw [Fits, List.count_cons_of_ne hsegment]

theorem fits_star_cons_iff :
    Fits ("*" :: segments) positions ↔ ∃ n rest, positions = n :: rest ∧ Fits segments rest := by
  rw [Fits, List.count_cons_self]
  cases positions with
  | nil => simp
  | cons n rest => simp [Fits]

theorem length_written (segments : List String) (positions : List Nat) :
    (written segments positions).length = segments.length := by
  fun_induction written segments positions <;> simp [*]

/-- Behind the first part of a key stand the separator and the other parts. -/
theorem toList_ofSegments_written (separator part : String) (hne : segments ≠ []) (positions : List Nat) :
    (Path.ofSegments separator (part :: written segments positions)).toList =
      part.toList ++ (separator.toList ++ (Path.ofSegments separator (written segments positions)).toList) := by
  have hwritten : (written segments positions).map String.toList ≠ [] := by
    rw [← List.length_pos_iff, List.length_map, length_written]
    exact List.length_pos_iff.2 hne
  simp only [Path.ofSegments, String.toList_intercalate, List.map_cons]
  rw [List.intercalate_cons_of_ne_nil hwritten, List.append_assoc]

/-- What the segments of a pattern admit one by one are the ways to write positions for the asterisks. -/
theorem forall₂_admits_iff :
    List.Forall₂ Admits segments parts ↔ ∃ positions, Fits segments positions ∧ parts = written segments positions := by
  induction segments generalizing parts with
  | nil =>
    rw [List.forall₂_nil_left_iff]
    constructor
    · rintro rfl
      exact ⟨[], rfl, rfl⟩
    · rintro ⟨positions, -, rfl⟩
      rfl
  | cons segment segments ih =>
    rw [List.forall₂_cons_left_iff]
    by_cases hsegment : segment = "*"
    · subst hsegment
      simp only [Admits, ↓reduceIte, Path.isIndex_iff, ih, fits_star_cons_iff]
      constructor
      · rintro ⟨_, _, ⟨n, rfl⟩, ⟨positions, hfits, rfl⟩, rfl⟩
        exact ⟨n :: positions, ⟨n, positions, rfl, hfits⟩, rfl⟩
      · rintro ⟨_, ⟨n, positions, rfl, hfits⟩, rfl⟩
        exact ⟨_, _, ⟨n, rfl⟩, ⟨positions, hfits, rfl⟩, rfl⟩
    · simp only [Admits, hsegment, ↓reduceIte, ih, fits_cons_of_ne hsegment, written_cons_of_ne hsegment]
      constructor
      · rintro ⟨_, _, rfl, ⟨positions, hfits, rfl⟩, rfl⟩
        exact ⟨positions, hfits, rfl⟩
      · rintro ⟨positions, hfits, rfl⟩
        exact ⟨_, _, rfl, ⟨positions, hfits, rfl⟩, rfl⟩

/-- The positions can be told from the segments into which they are written. -/
theorem written_inj (hfits : Fits segments positions) (hothers : Fits segments others) :
    written segments positions = written segments others ↔ positions = others := by
  refine ⟨fun h => ?_, congrArg _⟩
  induction segments generalizing positions others with
  | nil => rw [List.length_eq_zero_iff.1 hfits, List.length_eq_zero_iff.1 hothers]
  | cons segment segments ih =>
    by_cases hsegment : segment = "*"
    · subst hsegment
      obtain ⟨n, rest, rfl, hrest⟩ := fits_star_cons_iff.1 hfits
      obtain ⟨m, rest', rfl, hrest'⟩ := fits_star_cons_iff.1 hothers
      obtain ⟨hhead, htail⟩ := List.cons.inj h
      rw [Path.ofIndex_inj.1 hhead, ih hrest hrest' htail]
    · rw [written_cons_of_ne hsegment, written_cons_of_ne hsegment] at h
      exact ih ((fits_cons_of_ne hsegment).1 hfits) ((fits_cons_of_ne hsegment).1 hothers) (List.cons.inj h).2

end Written

section Texts

variable {segment : String} {segments : List String} {pieces : List Piece} {texts : List (List Char)}
  {key : List Char}

/-- The texts that positions have in a key. -/
abbrev textsOf (positions : List Nat) : List (List Char) := positions.map fun n => (Path.ofIndex n).toList

/-- What the piece of a segment takes from a key is the segment, or for an asterisk a position. -/
theorem spelled_ofSegment_cases (h : Spelled (Piece.ofSegment segment.toList :: pieces) texts key) :
    (segment = "*" ∧ ∃ n others rest, texts = (Path.ofIndex n).toList :: others ∧
      key = (Path.ofIndex n).toList ++ rest ∧ Spelled pieces others rest) ∨
    (segment ≠ "*" ∧ ∃ rest, key = segment.toList ++ rest ∧ Spelled pieces texts rest) := by
  have hstar : segment.toList = ['*'] ↔ segment = "*" := by
    rw [← String.toList_inj]
    rfl
  by_cases hsegment : segment = "*"
  · rw [Piece.ofSegment, if_pos (hstar.2 hsegment)] at h
    cases h with
    | @index _ others rest digits hdigits hrest =>
      have hindex : Path.isIndex (String.ofList digits) = true := by rwa [Path.isIndex, String.toList_ofList]
      obtain ⟨n, hn⟩ := Path.isIndex_iff.1 hindex
      obtain rfl : digits = (Path.ofIndex n).toList := by rw [← hn, String.toList_ofList]
      exact .inl ⟨hsegment, n, others, rest, rfl, rfl, hrest⟩
  · rw [Piece.ofSegment, if_neg (mt hstar.1 hsegment)] at h
    cases h with
    | text _ hrest => exact .inr ⟨hsegment, _, rfl, hrest⟩

/-- The texts that the pieces of a pattern take from a key are those of positions that make the key. -/
theorem exists_written_of_spelled {separator : String} (hne : segments ≠ [])
    (h : Spelled (piecesOf separator.toList (segments.map String.toList)) texts key) :
    ∃ positions, Fits segments positions ∧ texts = textsOf positions ∧
      key = (Path.ofSegments separator (written segments positions)).toList := by
  induction segments generalizing texts key with
  | nil => exact absurd rfl hne
  | cons segment segments ih =>
    -- Behind the piece of the first segment stands nothing, or the separator and the other segments.
    have hbehind : ∃ pieces, piecesOf separator.toList ((segment :: segments).map String.toList) =
          Piece.ofSegment segment.toList :: pieces ∧
        ∀ others rest, Spelled pieces others rest → ∃ positions, Fits segments positions ∧
          others = textsOf positions ∧ ∀ part : String,
            part.toList ++ rest = (Path.ofSegments separator (part :: written segments positions)).toList := by
      by_cases hrest : segments = []
      · subst hrest
        refine ⟨[], rfl, fun others rest hspelled => ?_⟩
        cases hspelled
        exact ⟨[], rfl, rfl, fun part => by simp [written, Path.ofSegments]⟩
      · obtain ⟨next, others, rfl⟩ := List.exists_cons_of_ne_nil hrest
        refine ⟨.text separator.toList :: piecesOf separator.toList ((next :: others).map String.toList), rfl, ?_⟩
        intro others rest hspelled
        cases hspelled with
        | text _ hspelled =>
          obtain ⟨positions, hfits, rfl, rfl⟩ := ih hrest hspelled
          exact ⟨positions, hfits, rfl, fun part => (toList_ofSegments_written separator part hrest positions).symm⟩
    obtain ⟨pieces, hpieces, hbehind⟩ := hbehind
    rw [hpieces] at h
    rcases spelled_ofSegment_cases h with ⟨rfl, n, others, rest, rfl, rfl, hspelled⟩ | ⟨hsegment, rest, rfl, hspelled⟩
    · obtain ⟨positions, hfits, rfl, hkey⟩ := hbehind others rest hspelled
      exact ⟨n :: positions, fits_star_cons_iff.2 ⟨n, positions, rfl, hfits⟩, rfl, hkey _⟩
    · obtain ⟨positions, hfits, rfl, hkey⟩ := hbehind texts rest hspelled
      refine ⟨positions, (fits_cons_of_ne hsegment).2 hfits, rfl, ?_⟩
      rw [written_cons_of_ne hsegment]
      exact hkey segment

end Texts

/-- Positions that are written for the asterisks of a pattern's text, one for each and from left to right, make a
key. -/
def Makes (separator text : String) (positions : List Nat) (key : String) : Prop :=
  Fits (Path.segments separator text) positions ∧
    Path.ofSegments separator (written (Path.segments separator text) positions) = key

section Captures

variable {p : Pattern} {key : String}

/-- A pattern addresses the keys that positions for its asterisks make. -/
theorem test_iff_exists_makes : p.test key = true ↔ ∃ positions, Makes p.separator p.text positions key := by
  simp only [test_iff_exists_parts, forall₂_admits_iff]
  constructor
  · rintro ⟨_, ⟨positions, hfits, rfl⟩, hkey⟩
    exact ⟨positions, hfits, hkey.symm⟩
  · rintro ⟨positions, hfits, hkey⟩
    exact ⟨_, ⟨positions, hfits, rfl⟩, hkey.symm⟩

/-- Positions are told from the key that they make, unless the separator holds a digit. -/
theorem Makes.unique {separator text : String} (hsep : separator ≠ "")
    (hdigit : ∀ c ∈ separator.toList, c.isDigit = false) {positions others : List Nat}
    (h : Makes separator text positions key) (hothers : Makes separator text others key) : positions = others := by
  have hcut {list : List Nat} (hlist : Fits (Path.segments separator text) list) :=
    segments_of_admits hsep hdigit (forall₂_admits_iff.2 ⟨list, hlist, rfl⟩)
  rw [← written_inj h.1 hothers.1, ← hcut h.1, h.2, ← hothers.2, hcut hothers.1]

theorem mapM_textsOf (positions : List Nat) :
    (textsOf positions).mapM Numeral.word? = if ∀ n ∈ positions, n < 2 ^ 64 then some positions else none := by
  induction positions with
  | nil => simp
  | cons n rest ih =>
    rw [textsOf, List.map_cons, List.mapM_cons, ih, Numeral.word?_ofIndex]
    by_cases hn : n < 2 ^ 64
    · simp only [hn, ↓reduceIte, List.forall_mem_cons, true_and]
      split <;> rfl
    · have hlarge : ¬ ∀ m ∈ n :: rest, m < 2 ^ 64 := fun h => hn (h n List.mem_cons_self)
      rw [if_neg hn, if_neg hlarge]
      rfl

/-- What is read off a key that the pattern addresses are the positions that make it, if all of them fit. -/
theorem captures?_of_test (h : p.test key = true) :
    ∃ positions, Makes p.separator p.text positions key ∧
      p.captures? key = if ∀ n ∈ positions, n < 2 ^ 64 then some positions else none := by
  obtain ⟨texts, htexts⟩ := Option.isSome_iff_exists.1 h
  have hpieces : p.pieces =
      piecesOf p.separator.toList ((Path.segments p.separator p.text).map String.toList) := by
    simp [pieces, segments, Path.segments, Function.comp_def]
  have hspelled := spelled_of_bind? htexts
  rw [hpieces] at hspelled
  obtain ⟨positions, hfits, rfl, hkey⟩ := exists_written_of_spelled (Path.segments_ne_nil _ _) hspelled
  refine ⟨positions, ⟨hfits, (String.toList_inj.1 hkey).symm⟩, ?_⟩
  rw [captures?, htexts, Option.bind_some, mapM_textsOf]

theorem captures?_of_not_test (h : p.test key = false) : p.captures? key = none := by
  have hnone : bind? p.pieces key.toList = none := Option.not_isSome_iff_eq_none.1 (Bool.eq_false_iff.1 h)
  rw [captures?, hnone, Option.bind_none]

/-- From a key that a pattern addresses the pattern reads the positions that have to be written for its asterisks, one
for each and from left to right, to make the key. These are unique. A pattern reads nothing from a key that it
addresses exactly if one of the positions does not fit 64 bits. -/
theorem compile_captures {text separator : String} (htext : text ≠ "") (hsep : separator ≠ "")
    (hdigit : ∀ c ∈ separator.toList, c.isDigit = false) :
    ∃ p, compile text separator = .ok p ∧ ∀ key,
      (∀ positions, p.captures? key = some positions ↔
        Makes separator text positions key ∧ ∀ n ∈ positions, n < 2 ^ 64) ∧
      (∀ positions others, Makes separator text positions key → Makes separator text others key →
        positions = others) ∧
      (p.captures? key = none ∧ p.test key = true ↔
        ∃ positions, Makes separator text positions key ∧ ∃ n ∈ positions, 2 ^ 64 ≤ n) := by
  obtain ⟨p, hp⟩ := exists_compile_eq_ok htext hsep
  obtain ⟨rfl, rfl⟩ := compile_eq_ok_iff.1 hp
  refine ⟨p, hp, fun key => ?_⟩
  cases htest : p.test key with
  | true =>
    obtain ⟨found, hfound, hcaptures⟩ := captures?_of_test htest
    have hfinds {positions : List Nat} (h : Makes p.separator p.text positions key) : found = positions :=
      hfound.unique hsep hdigit h
    rw [hcaptures]
    refine ⟨fun positions => ?_, fun positions others h h' => h.unique hsep hdigit h', ?_⟩
    · rw [Option.ite_none_right_eq_some, Option.some_inj]
      constructor
      · rintro ⟨hbound, rfl⟩
        exact ⟨hfound, hbound⟩
      · rintro ⟨hmakes, hbound⟩
        obtain rfl := hfinds hmakes
        exact ⟨hbound, rfl⟩
    · have hnone : (if ∀ n ∈ found, n < 2 ^ 64 then some found else none) = none ↔ ∃ n ∈ found, 2 ^ 64 ≤ n := by
        simp
      rw [hnone, and_iff_left rfl]
      constructor
      · exact fun hlarge => ⟨found, hfound, hlarge⟩
      · rintro ⟨positions, hmakes, hlarge⟩
        obtain rfl := hfinds hmakes
        exact hlarge
  | false =>
    have hnever (positions : List Nat) : ¬ Makes p.separator p.text positions key := by
      intro hmakes
      rw [test_iff_exists_makes.2 ⟨positions, hmakes⟩] at htest
      cases htest
    rw [captures?_of_not_test htest]
    refine ⟨fun positions => ?_, fun positions others h => absurd h (hnever positions), ?_⟩
    · exact iff_of_false (by simp) fun h => hnever positions h.1
    · exact iff_of_false (by simp) fun ⟨positions, hmakes, _⟩ => hnever positions hmakes

/-- Positions beside a text that looks like one, and a position that is too large. -/
theorem compile_captures_large :
    ("1.*.*" : String) ≠ "" ∧ ("." : String) ≠ "" ∧ (∀ c ∈ ".".toList, c.isDigit = false) ∧
      ∃ p, compile "1.*.*" "." = .ok p ∧ p.captures? "1.23.0" = some [23, 0] ∧
        p.captures? "1.7.18446744073709551616" = none ∧ p.test "1.7.18446744073709551616" = true := by
  have hdigit : ∀ c ∈ ".".toList, c.isDigit = false := by simp
  obtain ⟨p, hp, hcaptures⟩ := @compile_captures "1.*.*" "." (by decide) (by decide) hdigit
  refine ⟨by decide, by decide, hdigit, p, hp, ?_, ?_⟩
  · exact ((hcaptures "1.23.0").1 [23, 0]).2 ⟨⟨by decide, by decide⟩, by decide⟩
  · exact (hcaptures "1.7.18446744073709551616").2.2.2
      ⟨[7, 18446744073709551616], ⟨by decide, by decide⟩, 18446744073709551616, by simp, by decide⟩

end Captures

end FieldRules.Pattern
