import FieldRules.Proofs.Flat.Pattern
import FieldRules.Proofs.Regex.Read

/-!
The regular expression of a path pattern. It is read as the pieces of the pattern, one behind the other between the
marks for both ends, so that it matches just the keys that the pattern addresses.
-/

namespace FieldRules.Pattern

open Regex (Adds literal Matches seqAll Then)

/-- What a piece is read as. -/
def Piece.elements : Piece → List Regex
  | .text chars => chars.map literal
  | .index => [Regex.position]

section Read

variable {before piece after key : List Char} {pieces : List Piece}

theorem matches_digitsFrom_iff {first : Nat} (hfirst : first ≤ 57) :
    (Regex.digitsFrom first).Matches before piece after ↔ ∃ c, piece = [c] ∧ first ≤ c.toNat ∧ c.toNat ≤ 57 := by
  simp only [Regex.digitsFrom, Matches, Regex.contains_ofRanges_singleton hfirst]

theorem matches_digits_iff :
    (Regex.times (Regex.digitsFrom 48) 0 none).Matches before piece after ↔ ∀ c ∈ piece, c.isDigit = true := by
  simp only [Regex.digitsFrom, Regex.matches_times_chars_iff, Numeral.isDigit_iff,
    Regex.contains_ofRanges_singleton (show 48 ≤ 57 by decide)]

/-- The expression of an asterisk matches the texts of positions. -/
theorem matches_position_iff : Regex.position.Matches before piece after ↔ Path.isIndexChars piece = true := by
  have heither : Regex.position.Matches before piece after ↔ (seqAll [literal '0']).Matches before piece after ∨
      Then (Regex.digitsFrom 49).Matches (seqAll [.times (Regex.digitsFrom 48) 0 none]).Matches before piece after :=
    Iff.rfl
  rw [heither, Regex.matches_seqAll_singleton, Regex.matches_literal_iff, Regex.matches_seqAll_singleton,
    Path.isIndexChars_iff]
  constructor
  · rintro (rfl | ⟨_, rest, rfl, hfirst, hrest⟩)
    · simp
    · obtain ⟨c, rfl, hc⟩ := (matches_digitsFrom_iff (by decide)).1 hfirst
      have hdigit : c.isDigit = true := Numeral.isDigit_iff.2 (by omega)
      refine ⟨List.cons_ne_nil _ _, List.forall_mem_cons.2 ⟨hdigit, matches_digits_iff.1 hrest⟩, fun hhead => ?_⟩
      obtain rfl : c = '0' := by simpa using hhead
      exact absurd hc (by decide)
  · rintro ⟨hne, hdigits, hlead⟩
    obtain ⟨c, rest, rfl⟩ := List.exists_cons_of_ne_nil hne
    obtain ⟨hdigit, hrest⟩ := List.forall_mem_cons.1 hdigits
    by_cases hzero : c = '0'
    · exact .inl (hlead (by rw [hzero]; rfl))
    · have hcode : c.toNat ≠ 48 := fun h => hzero (Char.toNat_inj.1 h)
      have hrange := Numeral.isDigit_iff.1 hdigit
      refine .inr ⟨[c], rest, rfl, (matches_digitsFrom_iff (by decide)).2 ⟨c, rfl, ?_⟩, matches_digits_iff.2 hrest⟩
      omega

theorem adds_expressionOf (segment : List Char) :
    Adds (expressionOf segment) (Piece.ofSegment segment).elements := by
  rw [expressionOf, Piece.ofSegment]
  split
  · exact .position
  · exact .escape segment

/-- The segments are read as their pieces, and the separator as itself between them. -/
theorem adds_segments (separator : List Char) (segments : List (List Char)) :
    Adds ((Regex.escape separator).intercalate (segments.map expressionOf))
      ((piecesOf separator segments).flatMap Piece.elements) := by
  induction segments with
  | nil => exact .nil
  | cons segment segments ih =>
    cases segments with
    | nil => simpa [piecesOf] using adds_expressionOf segment
    | cons next segments =>
      have h := (adds_expressionOf segment).append ((Adds.escape separator).append ih)
      have hpieces : piecesOf separator (segment :: next :: segments) =
          Piece.ofSegment segment :: .text separator :: piecesOf separator (next :: segments) := rfl
      rw [hpieces, List.map_cons, List.intercalate_cons_of_ne_nil (by simp)]
      simpa [Piece.elements] using h

theorem exists_spelled_index_iff :
    (∃ texts, Spelled (.index :: pieces) texts key) ↔
      ∃ digits rest, Path.isIndexChars digits = true ∧ key = digits ++ rest ∧ ∃ texts, Spelled pieces texts rest := by
  constructor
  · rintro ⟨texts, h⟩
    cases h with
    | index hdigits hrest => exact ⟨_, _, hdigits, rfl, _, hrest⟩
  · rintro ⟨digits, rest, hdigits, rfl, texts, hrest⟩
    exact ⟨digits :: texts, .index hdigits hrest⟩

/-- What the pieces are read as matches the keys that they spell. -/
theorem matches_pieces_iff :
    (seqAll (pieces.flatMap Piece.elements)).Matches before key after ↔ ∃ texts, Spelled pieces texts key := by
  induction pieces generalizing before key with
  | nil =>
    constructor
    · rintro rfl
      exact ⟨[], .nil⟩
    · rintro ⟨texts, h⟩
      cases h
      rfl
  | cons piece pieces ih =>
    rw [List.flatMap_cons, Regex.matches_seqAll_append]
    cases piece with
    | text chars =>
      rw [exists_spelled_text_iff]
      constructor
      · rintro ⟨_, rest, rfl, hchars, hrest⟩
        exact ⟨rest, by rw [Regex.matches_literals_iff.1 hchars], ih.1 hrest⟩
      · rintro ⟨rest, rfl, hrest⟩
        exact ⟨chars, rest, rfl, Regex.matches_literals_iff.2 rfl, ih.2 hrest⟩
    | index =>
      rw [exists_spelled_index_iff, Piece.elements, Regex.matches_seqAll_singleton]
      constructor
      · rintro ⟨digits, rest, rfl, hdigits, hrest⟩
        exact ⟨digits, rest, matches_position_iff.1 hdigits, rfl, ih.1 hrest⟩
      · rintro ⟨digits, rest, hdigits, rfl, hrest⟩
        exact ⟨digits, rest, rfl, matches_position_iff.2 hdigits, ih.2 hrest⟩

end Read

/-- The expression of a pattern matches the keys that the pattern addresses. -/
theorem exists_parse?_expression (p : Pattern) :
    ∃ r, Regex.parse? p.expression = some r ∧ ∀ key, r.isMatch key = p.test key := by
  obtain ⟨r, hr, hmatch⟩ := Regex.exists_parse?_of_adds (adds_segments p.separator.toList p.segments)
  refine ⟨r, hr, fun key => ?_⟩
  rw [Bool.eq_iff_iff, hmatch, matches_pieces_iff, ← isSome_bind?_iff, test, pieces]

/-- A text and a separator that are not empty make a pattern. Its expression can be read, and it addresses the
keys that this expression matches. These come from the text when a position is written for each segment that is
an asterisk. Unless the separator holds a digit, they are the keys that agree with the text segment by segment;
without such a segment, it is the text alone. -/
theorem compile_language {text separator : String} (htext : text ≠ "") (hsep : separator ≠ "") :
    ∃ p, compile text separator = .ok p ∧
      (∃ r, Regex.parse? p.expression = some r ∧ ∀ key, r.isMatch key = p.test key) ∧ ∀ key,
      (p.test key = true ↔ ∃ parts, List.Forall₂ Admits (Path.segments separator text) parts ∧
        key = Path.ofSegments separator parts) ∧
      ((∀ c ∈ separator.toList, c.isDigit = false) → (p.test key = true ↔
        List.Forall₂ Admits (Path.segments separator text) (Path.segments separator key))) ∧
      ("*" ∉ Path.segments separator text → (p.test key = true ↔ key = text)) := by
  obtain ⟨p, hp⟩ := exists_compile_eq_ok htext hsep
  obtain ⟨rfl, rfl⟩ := compile_eq_ok_iff.1 hp
  exact ⟨p, hp, p.exists_parse?_expression,
    fun key => ⟨test_iff_exists_parts, test_iff_forall₂, test_iff_eq_text⟩⟩

/-- A separator can overlap with the segments, and a character that is no asterisk on its own stands for
itself. -/
theorem compile_language_overlap :
    ("*---a.*" : String) ≠ "" ∧ ("--" : String) ≠ "" ∧ ∃ p, compile "*---a.*" "--" = .ok p ∧
      (∃ r, Regex.parse? "^(0|[1-9][0-9]*)\\-\\-\\-a\\.\\*$" = some r ∧ r.isMatch "12---a.*" = true) ∧
      p.test "12---a.*" = true ∧ p.test "012---a.*" = false ∧ p.test "12---abc" = false := by
  obtain ⟨p, hp, ⟨r, hr, hmatch⟩, hlanguage⟩ := @compile_language "*---a.*" "--" (by decide) (by decide)
  have htest (key : String) := (hlanguage key).2.1 (by simp)
  have hmade : p.test "12---a.*" = true := (htest _).2 (by decide)
  have hexpression : p.expression = "^(0|[1-9][0-9]*)\\-\\-\\-a\\.\\*$" := by
    cases hp
    decide
  refine ⟨by decide, by decide, p, hp, ⟨r, by rw [← hexpression, hr], by rw [hmatch, hmade]⟩, hmade, ?_, ?_⟩
  · exact Bool.eq_false_iff.2 (mt (htest _).1 (by decide))
  · exact Bool.eq_false_iff.2 (mt (htest _).1 (by decide))

end FieldRules.Pattern
