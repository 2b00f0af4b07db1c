import FieldRules.Proofs.Regex.Read
import FieldRules.Validator.Text
import Mathlib.Data.List.Flatten
import Mathlib.Data.List.Forall2
import Mathlib.Data.List.Infix

/-!
The texts that a pattern with wildcards accepts: those that can be cut into pieces, one for each character of the
pattern. Wildcards stay within a line, so that a text without line feeds may be cut in any way.
-/

namespace FieldRules.Like

/-- What the characters of a pattern ask of a piece of the text: `%` nothing, `_` that it is one character, and any
other character that it is this character. -/
def Takes (p : Char) (piece : List Char) : Prop :=
  if p = '%' then True else if p = '_' then ∃ c, piece = [c] else piece = [p]

/-- As before, but no wildcard takes a line feed. -/
def TakesWithinLine (p : Char) (piece : List Char) : Prop :=
  Takes p piece ∧ (p = '%' ∨ p = '_' → '\n' ∉ piece)

/-- The text is cut into consecutive pieces, one for each character of the pattern. -/
def Cut (R : Char → List Char → Prop) (pattern s : List Char) : Prop :=
  ∃ pieces, List.Forall₂ R pattern pieces ∧ pieces.flatten = s

section Cut

variable {R S : Char → List Char → Prop} {p : Char} {pattern s : List Char}

theorem cut_nil_iff : Cut R [] s ↔ s = [] := by
  simp [Cut, eq_comm]

theorem cut_cons_iff : Cut R (p :: pattern) s ↔ ∃ piece rest, s = piece ++ rest ∧ R p piece ∧ Cut R pattern rest := by
  constructor
  · rintro ⟨pieces, hpieces, rfl⟩
    obtain ⟨piece, others, hpiece, hothers, rfl⟩ := List.forall₂_cons_left_iff.1 hpieces
    exact ⟨piece, others.flatten, List.flatten_cons, hpiece, others, hothers, rfl⟩
  · rintro ⟨piece, _, rfl, hpiece, pieces, hpieces, rfl⟩
    exact ⟨piece :: pieces, .cons hpiece hpieces, List.flatten_cons⟩

theorem Cut.imp (h : Cut R pattern s) (himp : ∀ p piece, (∀ c ∈ piece, c ∈ s) → R p piece → S p piece) :
    Cut S pattern s := by
  induction pattern generalizing s with
  | nil => exact cut_nil_iff.2 (cut_nil_iff.1 h)
  | cons p pattern ih =>
    obtain ⟨piece, rest, rfl, hpiece, hrest⟩ := cut_cons_iff.1 h
    refine cut_cons_iff.2 ⟨piece, rest, rfl, himp p piece (fun c hc => by simp [hc]) hpiece, ih hrest ?_⟩
    exact fun p piece hmem => himp p piece fun c hc => List.mem_append_right _ (hmem c hc)

end Cut

/-- The text has the property behind a piece that the character takes. -/
def Behind (p : Char) (P : List Char → Prop) (s : List Char) : Prop :=
  ∃ piece rest, s = piece ++ rest ∧ TakesWithinLine p piece ∧ P rest

section Behind

variable {p c : Char} {s : List Char} {P : List Char → Prop}

/-- A run that a percent sign takes is empty, or it takes a character and then goes on. -/
theorem behind_percent_cons_iff :
    Behind '%' P (c :: s) ↔ P (c :: s) ∨ (c ≠ '\n' ∧ Behind '%' P s) := by
  simp only [Behind, TakesWithinLine, Takes, ↓reduceIte, true_or, true_and, forall_const]
  constructor
  · rintro ⟨piece, rest, heq, hline, hrest⟩
    cases piece with
    | nil =>
      rw [List.nil_append] at heq
      exact .inl (heq ▸ hrest)
    | cons d piece =>
      obtain ⟨rfl, rfl⟩ := List.cons.inj heq
      obtain ⟨hc, hpiece⟩ := List.ne_and_not_mem_of_not_mem_cons hline
      exact .inr ⟨hc.symm, piece, rest, rfl, hpiece, hrest⟩
  · rintro (hrest | ⟨hc, piece, rest, rfl, hline, hrest⟩)
    · exact ⟨[], c :: s, rfl, List.not_mem_nil, hrest⟩
    · exact ⟨c :: piece, rest, rfl, List.not_mem_cons_of_ne_of_not_mem hc.symm hline, hrest⟩

theorem takesWithinLine_iff (hp : p ≠ '%') {piece : List Char} :
    TakesWithinLine p piece ↔ ∃ c, piece = [c] ∧ fits p c = true := by
  rw [TakesWithinLine, Takes, if_neg hp]
  by_cases hone : p = '_'
  · simp only [fits, hone, ↓reduceIte, or_true, forall_const, bne_iff_ne]
    constructor
    · rintro ⟨⟨c, rfl⟩, hline⟩
      exact ⟨c, rfl, by simpa [eq_comm] using hline⟩
    · rintro ⟨c, rfl, hc⟩
      exact ⟨⟨c, rfl⟩, by simpa [eq_comm] using hc⟩
  · simp [fits, hone, hp]

/-- A character that is no percent sign takes the first character of the text if it fits. -/
theorem behind_cons_iff (hp : p ≠ '%') : Behind p P (c :: s) ↔ fits p c = true ∧ P s := by
  simp only [Behind, takesWithinLine_iff hp]
  constructor
  · rintro ⟨_, rest, heq, ⟨d, rfl, hd⟩, hrest⟩
    obtain ⟨rfl, rfl⟩ := List.cons.inj heq
    exact ⟨hd, hrest⟩
  · rintro ⟨hc, hrest⟩
    exact ⟨[c], s, rfl, ⟨c, rfl, hc⟩, hrest⟩

/-- At the end of the text there is only the empty run. -/
theorem behind_nil_iff : Behind p P [] ↔ p = '%' ∧ P [] := by
  have htakes : TakesWithinLine p [] ↔ p = '%' := by
    by_cases hp : p = '%'
    · simp [TakesWithinLine, Takes, hp]
    · simp [takesWithinLine_iff hp, hp]
  constructor
  · rintro ⟨piece, rest, heq, hpiece, hrest⟩
    obtain ⟨rfl, rfl⟩ := List.append_eq_nil_iff.1 heq.symm
    exact ⟨htakes.1 hpiece, hrest⟩
  · rintro ⟨hp, hrest⟩
    exact ⟨[], [], rfl, htakes.2 hp, hrest⟩

end Behind

/-- The entries tell of the ends of a text, from the whole text to the empty one, whether they have a property. -/
abbrev Tells (P : List Char → Prop) (entries : List Bool) (s : List Char) : Prop :=
  List.Forall₂ (fun entry rest => entry = true ↔ P rest) entries s.tails

theorem Tells.head {P : List Char → Prop} {entries : List Bool} {s : List Char} (h : Tells P entries s) :
    entries.headD false = true ↔ P s := by
  cases s <;> cases h with
  | cons hfirst _ => exact hfirst

/-- From the ends that have a property come those that have it behind a piece which the character takes. -/
theorem Tells.endsWith {P : List Char → Prop} (p : Char) {below : List Bool} {s : List Char} (h : Tells P below s) :
    Tells (Behind p P) (endsWith p s below) s := by
  induction s generalizing below with
  | nil =>
    obtain ⟨here, rest, hhere, hrest, rfl⟩ := List.forall₂_cons_right_iff.1 h
    cases hrest
    rw [Like.endsWith]
    by_cases hp : p = '%'
    · rw [if_pos hp]
      exact .cons (by rw [behind_nil_iff, hhere, and_iff_right hp]) .nil
    · rw [if_neg hp]
      exact .cons (by simp [behind_nil_iff, hp]) .nil
  | cons c s ih =>
    obtain ⟨here, below, hhere, hbelow, rfl⟩ := List.forall₂_cons_right_iff.1 h
    have hshorter := ih hbelow
    rw [Like.endsWith]
    refine .cons ?_ hshorter
    by_cases hp : p = '%'
    · subst hp
      rw [behind_percent_cons_iff, if_pos rfl, Bool.or_eq_true, Bool.and_eq_true, hhere, hshorter.head, bne_iff_ne]
    · rw [behind_cons_iff hp, if_neg hp, Bool.and_eq_true, Tells.head hbelow]

/-- The table of a pattern tells which ends of the text can be cut. -/
theorem tells_matchedEnds (pattern s : List Char) :
    Tells (Cut TakesWithinLine pattern) (matchedEnds pattern s) s := by
  induction pattern with
  | nil =>
    simp only [Tells, cut_nil_iff]
    induction s with
    | nil => simp [matchedEnds]
    | cons c s ih => exact .cons (by simp) ih
  | cons p pattern ih =>
    have hcut : Cut TakesWithinLine (p :: pattern) = Behind p (Cut TakesWithinLine pattern) :=
      funext fun _ => propext cut_cons_iff
    rw [hcut]
    exact ih.endsWith p

theorem isMatch_iff {pattern s : List Char} : isMatch pattern s = true ↔ Cut TakesWithinLine pattern s :=
  (tells_matchedEnds pattern s).head

/-- Without line feeds wildcards are as free as they may be. -/
theorem cut_takesWithinLine_iff {pattern s : List Char} (hline : '\n' ∉ s) :
    Cut TakesWithinLine pattern s ↔ Cut Takes pattern s :=
  ⟨fun h => h.imp fun _ _ _ htakes => htakes.1,
    fun h => h.imp fun _ _ hmem htakes => ⟨htakes, fun _ hpiece => hline (hmem _ hpiece)⟩⟩

section Expression

open Regex (Adds Matches literal seqAll withinLine)

variable {p : Char} {pattern before piece after s : List Char}

/-- What the expression of a character is read as. -/
def elementOf (p : Char) : Regex :=
  if p = '%' then .times withinLine 0 none else if p = '_' then withinLine else literal p

theorem adds_expressionOf (p : Char) : Adds (expressionOf p) [elementOf p] := by
  rw [expressionOf, elementOf]
  split
  · exact .dots
  · split
    · exact .dot
    · exact .escapeChar p

theorem matches_elementOf_iff : (elementOf p).Matches before piece after ↔ TakesWithinLine p piece := by
  by_cases hrun : p = '%'
  · simp only [elementOf, TakesWithinLine, Takes, hrun, ↓reduceIte, withinLine, Regex.matches_times_chars_iff,
      Regex.contains_complement_lineFeed, true_or, true_and, forall_const]
    exact ⟨fun h hmem => h _ hmem rfl, fun h c hc heq => h (heq ▸ hc)⟩
  · rw [takesWithinLine_iff hrun, elementOf, if_neg hrun]
    by_cases hone : p = '_'
    · simp only [hone, ↓reduceIte, withinLine, Matches, Regex.contains_complement_lineFeed, fits, bne_iff_ne]
    · simp only [hone, ↓reduceIte, Regex.matches_literal_iff, fits, beq_iff_eq, exists_eq_right']

/-- What a pattern is read as matches the texts that can be cut. -/
theorem matches_elements_iff :
    (seqAll (pattern.map elementOf)).Matches before s after ↔ Cut TakesWithinLine pattern s := by
  induction pattern generalizing before s with
  | nil => exact cut_nil_iff.symm
  | cons p pattern ih =>
    rw [cut_cons_iff]
    constructor
    · rintro ⟨piece, rest, rfl, hpiece, hrest⟩
      exact ⟨piece, rest, rfl, matches_elementOf_iff.1 hpiece, ih.1 hrest⟩
    · rintro ⟨piece, rest, rfl, hpiece, hrest⟩
      exact ⟨piece, rest, rfl, matches_elementOf_iff.2 hpiece, ih.2 hrest⟩

/-- The expression of a pattern matches the texts that the pattern matches. -/
theorem exists_parse?_expression (pattern : String) :
    ∃ r, Regex.parse? (expression pattern) = some r ∧
      ∀ text : String, r.isMatch text = isMatch pattern.toList text.toList := by
  have hadds : Adds (pattern.toList.flatMap expressionOf) (pattern.toList.map elementOf) := by
    rw [List.map_eq_flatMap]
    exact .flatMap fun p _ => adds_expressionOf p
  obtain ⟨r, hr, hmatch⟩ := Regex.exists_parse?_of_adds hadds
  refine ⟨r, hr, fun text => ?_⟩
  rw [Bool.eq_iff_iff, hmatch, matches_elements_iff, isMatch_iff]

end Expression

end FieldRules.Like

namespace FieldRules.Validator

open Like

/-- A text is accepted exactly if the expression of the pattern matches it, that is, if it can be cut into pieces, one
for each character of the pattern, where `%` takes any run of characters without a line feed, `_` takes one character
other than a line feed, and any other character takes itself; otherwise the complaint names text and pattern. So
whatever is accepted can be cut with wildcards that take what they like, and in a text without line feeds whatever can
be cut so is accepted. -/
theorem like_string {attributes : Attributes} {pattern : String}
    (hpattern : attributes.get? "pattern" = some (.string pattern)) (text : String) :
    (∃ r, Regex.parse? (Like.expression pattern) = some r ∧
      (like (.string text) attributes = .ok () ↔ r.isMatch text = true)) ∧
    (like (.string text) attributes = .ok () ↔ Cut TakesWithinLine pattern.toList text.toList) ∧
    (¬ Cut TakesWithinLine pattern.toList text.toList →
      like (.string text) attributes = .error s!"'{text}' is not LIKE '{pattern}'") ∧
    (like (.string text) attributes = .ok () → Cut Takes pattern.toList text.toList) ∧
    ('\n' ∉ text.toList →
      (like (.string text) attributes = .ok () ↔ Cut Takes pattern.toList text.toList)) := by
  have hlike : like (.string text) attributes =
      require (isMatch pattern.toList text.toList) s!"'{text}' is not LIKE '{pattern}'" := by
    simp only [like, Json.expectText, Attributes.text, hpattern]
    rfl
  have haccepts : like (.string text) attributes = .ok () ↔ Cut TakesWithinLine pattern.toList text.toList := by
    rw [hlike, require, ← isMatch_iff]
    cases isMatch pattern.toList text.toList <;> simp
  obtain ⟨r, hr, hmatch⟩ := exists_parse?_expression pattern
  refine ⟨⟨r, hr, ?_⟩, haccepts, fun hcut => ?_, fun hok => ?_,
    fun hline => haccepts.trans (cut_takesWithinLine_iff hline)⟩
  · rw [haccepts, hmatch, isMatch_iff]
  · rw [hlike, require, if_neg (mt isMatch_iff.1 hcut)]
  · exact (haccepts.1 hok).imp fun _ _ _ htakes => htakes.1

/-- Characters that mean something elsewhere stand for themselves, and characters of several bytes are one. -/
theorem like_string_literal :
    let attributes : Attributes := .ofList [("pattern", .string "_.*(%$")]
    attributes.get? "pattern" = some (.string "_.*(%$") ∧ '\n' ∉ "é.*(x\r)$".toList ∧
      (∃ r, Regex.parse? "^.\\.\\*\\(.*\\$$" = some r ∧ r.isMatch "é.*(x\r)$" = true) ∧
      like (.string "é.*(x\r)$") attributes = .ok () ∧ Cut Takes "_.*(%$".toList "é.*(x\r)$".toList := by
  intro attributes
  have hpattern : attributes.get? "pattern" = some (.string "_.*(%$") := by rfl
  have hline : '\n' ∉ "é.*(x\r)$".toList := by simp
  obtain ⟨⟨r, hr, hmatch⟩, -, -, -, hfree⟩ := like_string hpattern "é.*(x\r)$"
  have hlanguage := hfree hline
  have hcut : Cut Takes "_.*(%$".toList "é.*(x\r)$".toList :=
    ⟨[['é'], ['.'], ['*'], ['('], ['x', '\r', ')'], ['$']], by simp [Takes], by simp⟩
  have hexpression : Like.expression "_.*(%$" = "^.\\.\\*\\(.*\\$$" := by decide
  exact ⟨hpattern, hline, ⟨r, hexpression ▸ hr, hmatch.1 (hlanguage.2 hcut)⟩, hlanguage.2 hcut, hcut⟩

/-- A line feed alone is refused by the pattern that should accept every text. -/
theorem like_string_line_feed :
    let attributes : Attributes := .ofList [("pattern", .string "%")]
    like (.string "\n") attributes = .error "'\n' is not LIKE '%'" ∧ Cut Takes "%".toList "\n".toList := by
  intro attributes
  exact ⟨by rfl, [['\n']], by simp [Takes], by simp⟩

end FieldRules.Validator
