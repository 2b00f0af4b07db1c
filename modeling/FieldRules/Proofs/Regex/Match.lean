import FieldRules.Regex.Basic
import Mathlib.Data.List.Basic
import Mathlib.Data.Nat.Bitwise
import Mathlib.Logic.Function.Iterate

/-!
What a regular expression matches: pieces of a text, each told with what stands before and behind it. The places to
which the matcher comes are those to which such pieces lead.
-/

namespace FieldRules.Regex

/-- Which pieces of texts are meant, each with what stands before and behind it. -/
abbrev Spans := List Char → List Char → List Char → Prop

/-- A piece of the one kind and behind it one of the other. -/
def Then (M N : Spans) : Spans := fun before piece after =>
  ∃ first second, piece = first ++ second ∧ M before first (second ++ after) ∧ N (before ++ first) second after

/-- So many pieces of a kind, one behind the other. -/
def Repeats (M : Spans) : Nat → Spans
  | 0 => fun _ piece _ => piece = []
  | count + 1 => Then M (Repeats M count)

/-- The pieces that an expression matches. -/
def Matches : Regex → Spans
  | .empty => fun _ piece _ => piece = []
  | .chars set => fun _ piece _ => ∃ c, piece = [c] ∧ set.contains c.toNat = true
  | .anchor condition => fun before piece after =>
    piece = [] ∧ condition.holds ⟨before.getLast?, after.head?⟩ = true
  | .seq first second => Then first.Matches second.Matches
  | .either left right => fun before piece after => left.Matches before piece after ∨ right.Matches before piece after
  | .times inner least most => fun before piece after =>
    ∃ count, least ≤ count ∧ (∀ bound ∈ most, count ≤ max least bound) ∧
      Repeats inner.Matches count before piece after

section Spans

variable {M N P : Spans} {before piece after : List Char}

theorem then_assoc : Then (Then M N) P = Then M (Then N P) := by
  funext before piece after
  refine propext ⟨?_, ?_⟩
  · rintro ⟨_, third, rfl, ⟨first, second, rfl, hfirst, hsecond⟩, hthird⟩
    exact ⟨first, second ++ third, by simp, by simpa using hfirst, second, third, rfl, hsecond, by simpa using hthird⟩
  · rintro ⟨first, _, rfl, hfirst, second, third, rfl, hsecond, hthird⟩
    exact ⟨first ++ second, third, by simp, ⟨first, second, rfl, by simpa using hfirst, hsecond⟩,
      by simpa using hthird⟩

theorem empty_then : Then (fun _ piece _ => piece = []) N = N := by
  funext before piece after
  refine propext ⟨?_, fun h => ⟨[], piece, rfl, rfl, by simpa using h⟩⟩
  rintro ⟨_, second, rfl, rfl, hsecond⟩
  simpa using hsecond

theorem repeats_add (m n : Nat) : Repeats M (m + n) = Then (Repeats M m) (Repeats M n) := by
  induction m with
  | zero => rw [Nat.zero_add, Repeats, empty_then]
  | succ m ih => rw [Nat.succ_add, Repeats, ih, Repeats, then_assoc]

/-- Where each piece may be left out, there are up to so many. -/
theorem repeats_or_empty_iff {count : Nat} :
    Repeats (fun before piece after => piece = [] ∨ M before piece after) count before piece after ↔
      ∃ n ≤ count, Repeats M n before piece after := by
  induction count generalizing before piece with
  | zero =>
    constructor
    · exact fun h => ⟨0, le_rfl, h⟩
    · rintro ⟨n, hn, h⟩
      obtain rfl := Nat.le_zero.1 hn
      exact h
  | succ count ih =>
    constructor
    · rintro ⟨first, second, rfl, rfl | hfirst, hsecond⟩
      · obtain ⟨n, hn, h⟩ := ih.1 hsecond
        exact ⟨n, by omega, by simpa using h⟩
      · obtain ⟨n, hn, h⟩ := ih.1 hsecond
        exact ⟨n + 1, by omega, first, second, rfl, hfirst, h⟩
    · rintro ⟨n, hn, h⟩
      cases n with
      | zero => exact ⟨[], piece, rfl, .inl rfl, ih.2 ⟨0, by omega, h⟩⟩
      | succ n =>
        obtain ⟨first, second, rfl, hfirst, hsecond⟩ := h
        exact ⟨first, second, rfl, .inr hfirst, ih.2 ⟨n, by omega, hsecond⟩⟩

/-- Empty pieces can be left out, so that there need be no more pieces than characters. -/
theorem Repeats.exists_le_length {count : Nat} (h : Repeats M count before piece after) :
    ∃ n ≤ piece.length, Repeats M n before piece after := by
  induction count generalizing before piece with
  | zero => exact ⟨0, Nat.zero_le _, h⟩
  | succ count ih =>
    obtain ⟨first, second, rfl, hfirst, hsecond⟩ := h
    obtain ⟨n, hn, hrest⟩ := ih hsecond
    cases first with
    | nil => exact ⟨n, hn, by simpa using hrest⟩
    | cons c first =>
      refine ⟨n + 1, ?_, c :: first, second, rfl, hfirst, hrest⟩
      rw [List.length_append, List.length_cons]
      omega

/-- Beyond the least number there need be no more pieces than characters. -/
theorem exists_repeats_iff {least rounds : Nat} (hlength : piece.length ≤ rounds) :
    (∃ n ≤ rounds, Repeats M (least + n) before piece after) ↔ ∃ count ≥ least, Repeats M count before piece after := by
  constructor
  · rintro ⟨n, -, h⟩
    exact ⟨least + n, Nat.le_add_right _ _, h⟩
  · rintro ⟨count, hleast, h⟩
    obtain ⟨n, rfl⟩ := Nat.exists_eq_add_of_le hleast
    rw [repeats_add] at h
    obtain ⟨first, second, rfl, hfirst, hsecond⟩ := h
    obtain ⟨m, hm, hsecond⟩ := hsecond.exists_le_length
    rw [List.length_append] at hlength
    exact ⟨m, by omega, by rw [repeats_add]; exact ⟨first, second, rfl, hfirst, hsecond⟩⟩

end Spans

/-- A step takes each set of places of a text to those to which the pieces lead from it. -/
def Follows (text : List Char) (step : Nat → Nat) (M : Spans) : Prop :=
  ∀ set front rest, front ++ rest = text → ((step set).testBit front.length = true ↔
    ∃ before piece, front = before ++ piece ∧ set.testBit before.length = true ∧ M before piece rest)

section Follows

variable {text : List Char} {step next : Nat → Nat} {M N : Spans}

theorem Follows.congr (h : Follows text step M)
    (hiff : ∀ before piece after, before ++ piece ++ after = text → (M before piece after ↔ N before piece after)) :
    Follows text step N := by
  intro set front rest htext
  rw [h set front rest htext]
  refine exists_congr fun before => exists_congr fun piece => and_congr_right fun hfront => ?_
  rw [hiff before piece rest (by rw [← hfront, htext])]

theorem follows_id : Follows text id fun _ piece _ => piece = [] := by
  intro set front rest _
  constructor
  · exact fun h => ⟨front, [], by simp, h, rfl⟩
  · rintro ⟨before, _, rfl, h, rfl⟩
    simpa using h

theorem Follows.comp (hstep : Follows text step M) (hnext : Follows text next N) :
    Follows text (next ∘ step) (Then M N) := by
  intro set front rest htext
  rw [Function.comp_apply, hnext (step set) front rest htext]
  constructor
  · rintro ⟨middle, second, rfl, hmiddle, hsecond⟩
    obtain ⟨before, first, rfl, hset, hfirst⟩ := (hstep set middle (second ++ rest) (by simpa using htext)).1 hmiddle
    exact ⟨before, first ++ second, by simp, hset, first, second, rfl, hfirst, hsecond⟩
  · rintro ⟨before, _, rfl, hset, first, second, rfl, hfirst, hsecond⟩
    refine ⟨before ++ first, second, by simp, ?_, hsecond⟩
    exact (hstep set (before ++ first) (second ++ rest) (by simpa using htext)).2 ⟨before, first, rfl, hset, hfirst⟩

theorem Follows.or (hstep : Follows text step M) (hnext : Follows text next N) :
    Follows text (fun set => step set ||| next set) fun before piece after =>
      M before piece after ∨ N before piece after := by
  intro set front rest htext
  rw [Nat.testBit_or, Bool.or_eq_true, hstep set front rest htext, hnext set front rest htext]
  simp only [and_or_left, exists_or]

/-- Stopping at a set that no longer changes makes no difference. -/
theorem Route.iterate_eq (step : Nat → Nat) (count set : Nat) : iterate step count set = step^[count] set := by
  induction count generalizing set with
  | zero => rfl
  | succ count ih =>
    rw [iterate, Function.iterate_succ_apply]
    split
    · next hfixed => rw [hfixed, Function.iterate_fixed hfixed]
    · exact ih (step set)

/-- Steps that stay below a bound do so however often they are taken. -/
theorem Route.iterate_lt {bound set : Nat} (hstep : ∀ set, set < bound → step set < bound) (hset : set < bound)
    (count : Nat) : iterate step count set < bound := by
  rw [iterate_eq]
  exact Function.Iterate.rec (· < bound) hset hstep count

theorem Follows.iterate (h : Follows text step M) (count : Nat) :
    Follows text (Route.iterate step count) (Repeats M count) := by
  have hiterate : Route.iterate step count = step^[count] := funext (Route.iterate_eq step count)
  rw [hiterate]
  clear hiterate
  induction count with
  | zero => exact follows_id
  | succ count ih => exact h.comp ih

theorem Follows.spread (h : Follows text step M) (count : Nat) :
    Follows text (Route.spread step count) fun before piece after => ∃ n ≤ count, Repeats M n before piece after :=
  ((follows_id.or h).iterate count).congr fun _ _ _ _ => repeats_or_empty_iff

/-- Repetitions beyond the least number are found in further rounds. -/
theorem Follows.times (h : Follows text step M) (least rounds : Nat) :
    Follows text (fun set => Route.spread step rounds (Route.iterate step least set)) fun before piece after =>
      ∃ n ≤ rounds, Repeats M (least + n) before piece after := by
  refine ((h.iterate least).comp (h.spread rounds)).congr fun before piece after _ => ?_
  simp only [repeats_add]
  constructor
  · rintro ⟨first, second, rfl, hfirst, n, hn, hsecond⟩
    exact ⟨n, hn, first, second, rfl, hfirst, hsecond⟩
  · rintro ⟨n, hn, first, second, rfl, hfirst, hsecond⟩
    exact ⟨first, second, rfl, hfirst, n, hn, hsecond⟩

end Follows

section Places

variable {α : Type} {p : α → Bool}

theorem testBit_all (count i : Nat) : (1 <<< count - 1).testBit i = decide (i < count) := by
  rw [Nat.one_shiftLeft, Nat.testBit_two_pow_sub_one]

theorem all_lt (count : Nat) : 1 <<< count - 1 < 2 ^ count := by
  rw [Nat.one_shiftLeft]
  exact Nat.sub_lt (Nat.two_pow_pos _) Nat.one_pos

theorem mask_cons (item : α) (items : List α) : mask p (item :: items) = 2 * mask p items + (p item).toNat := rfl

theorem testBit_mask (items : List α) (i : Nat) : (mask p items).testBit i = items[i]?.any p := by
  induction items generalizing i with
  | nil => simp [mask]
  | cons item items ih =>
    rw [mask_cons]
    cases i with
    | zero =>
      cases hitem : p item <;> simp [hitem, Nat.testBit_zero]
    | succ i =>
      have hhalf : (2 * mask p items + (p item).toNat) / 2 = mask p items := by
        have hle := (p item).toNat_le
        omega
      rw [Nat.testBit_succ, hhalf, ih, List.getElem?_cons_succ]

theorem mask_lt (items : List α) : mask p items < 2 ^ items.length := by
  induction items with
  | nil => simp [mask]
  | cons item items ih =>
    have hle := (p item).toNat_le
    rw [mask_cons, List.length_cons, Nat.pow_succ]
    omega

theorem length_places (before : Option Char) (text : List Char) : (places before text).length = text.length + 1 := by
  induction text generalizing before with
  | nil => rfl
  | cons c text ih => rw [places, List.length_cons, ih, List.length_cons]

/-- The place behind a part of the text has the last character of this part before it. -/
theorem getElem?_places (before : Option Char) (front rest : List Char) :
    (places before (front ++ rest))[front.length]? = some ⟨front.getLast?.or before, rest.head?⟩ := by
  induction front generalizing before with
  | nil => cases rest <;> simp [places]
  | cons c front ih =>
    rw [List.cons_append, places, List.length_cons, List.getElem?_cons_succ, ih, List.getLast?_cons]
    cases front.getLast? <;> rfl

end Places

section Reach

variable {text : List Char}

/-- A condition on places keeps those that satisfy it. -/
theorem follows_stay {places : Nat} (condition : List Char → List Char → Prop)
    (h : ∀ front rest, front ++ rest = text → (places.testBit front.length = true ↔ condition front rest)) :
    Follows text (· &&& places) fun before piece after => piece = [] ∧ condition before after := by
  intro set front rest htext
  rw [Nat.testBit_and, Bool.and_eq_true, h front rest htext]
  constructor
  · rintro ⟨hset, hcondition⟩
    exact ⟨front, [], by simp, hset, rfl, hcondition⟩
  · rintro ⟨before, _, rfl, hset, rfl, hcondition⟩
    rw [List.append_nil]
    exact ⟨hset, hcondition⟩

theorem follows_move (set : CodePointSet) :
    Follows text (fun places => (places &&& mask (fun c => set.contains c.toNat) text) <<< 1)
      (Regex.chars set).Matches := by
  intro places front rest htext
  rw [Nat.testBit_shiftLeft, Nat.testBit_and, testBit_mask, ← htext]
  rcases List.eq_nil_or_concat' front with rfl | ⟨before, c, rfl⟩
  · refine iff_of_false (by simp) ?_
    rintro ⟨before, _, hempty, -, c, rfl, -⟩
    simp at hempty
  · simp only [List.length_append, List.length_singleton, Nat.add_sub_cancel, List.append_assoc,
      List.singleton_append, List.getElem?_append_right (Nat.le_refl _), Nat.sub_self, List.getElem?_cons_zero,
      Option.any_some, Bool.and_eq_true, decide_eq_true_eq]
    constructor
    · rintro ⟨-, hplace, hc⟩
      exact ⟨before, [c], rfl, hplace, c, rfl, hc⟩
    · rintro ⟨front, _, heq, hplace, d, rfl, hd⟩
      obtain ⟨rfl, hlast⟩ := List.append_inj' heq rfl
      cases hlast
      exact ⟨Nat.le_add_left _ _, hplace, hd⟩

/-- The matcher comes to the places to which the pieces lead that the expression matches. -/
theorem follows_reach (r : Regex) : Follows text ((r.route text).reach text.length) r.Matches := by
  induction r with
  | empty =>
    refine (follows_stay (fun _ _ => True) fun front rest htext => ?_).congr fun _ _ _ _ =>
      iff_of_eq (and_true _)
    simp only [testBit_all, ← htext, List.length_append, decide_eq_true_eq, iff_true]
    omega
  | chars set => exact follows_move set
  | anchor condition =>
    refine follows_stay _ fun front rest htext => ?_
    rw [testBit_mask, ← htext, getElem?_places, Option.or_none, Option.any_some]
  | seq first second ihFirst ihSecond => exact ihFirst.comp ihSecond
  | either left right ihLeft ihRight => exact ihLeft.or ihRight
  | times inner least most ih =>
    cases most with
    | none =>
      refine (ih.times least (text.length + 1)).congr fun before piece after htext => ?_
      have hlength : piece.length ≤ text.length + 1 := by
        rw [← htext]
        simp only [List.length_append]
        omega
      rw [exists_repeats_iff hlength]
      simp [Matches]
    | some most =>
      refine (ih.times least (most - least)).congr fun before piece after _ => ?_
      constructor
      · rintro ⟨n, hn, h⟩
        refine ⟨least + n, by omega, ?_, h⟩
        rintro bound ⟨⟩
        omega
      · rintro ⟨count, hleast, hmost, h⟩
        have hbound := hmost most rfl
        exact ⟨count - least, by omega, by rwa [Nat.add_sub_cancel' hleast]⟩

/-- The matcher does not leave the text. -/
theorem reach_lt (r : Regex) {set : Nat} (hset : set < 2 ^ (text.length + 1)) :
    (r.route text).reach text.length set < 2 ^ (text.length + 1) := by
  induction r generalizing set with
  | empty => exact Nat.and_lt_two_pow _ (all_lt _)
  | chars chars =>
    have hmask := mask_lt (p := fun c : Char => chars.contains c.toNat) text
    rw [route, Route.reach, Nat.shiftLeft_eq, Nat.pow_succ 2 text.length]
    exact Nat.mul_lt_mul_of_pos_right (Nat.and_lt_two_pow _ hmask) (by decide)
  | anchor condition =>
    have hmask := mask_lt (p := condition.holds) (places none text)
    rw [length_places] at hmask
    exact Nat.and_lt_two_pow _ hmask
  | seq first second ihFirst ihSecond => exact ihSecond (ihFirst hset)
  | either left right ihLeft ihRight => exact Nat.or_lt_two_pow (ihLeft hset) (ihRight hset)
  | times inner least most ih =>
    have hstep (reached : Nat) (h : reached < 2 ^ (text.length + 1)) :
        reached ||| (inner.route text).reach text.length reached < 2 ^ (text.length + 1) := Nat.or_lt_two_pow h (ih h)
    have hbegun := Route.iterate_lt (fun _ => ih) hset least
    cases most with
    | none => exact Route.iterate_lt hstep hbegun _
    | some most => exact Route.iterate_lt hstep hbegun _

/-- The matcher finds a match exactly if some piece of the text is matched. -/
theorem isMatch_iff {r : Regex} {text : String} :
    r.isMatch text = true ↔
      ∃ before piece after, text.toList = before ++ piece ++ after ∧ r.Matches before piece after := by
  rw [isMatch, bne_iff_ne]
  constructor
  · intro hne
    obtain ⟨place, hplace⟩ := Nat.exists_testBit_of_ne_zero hne
    have hle : place ≤ text.toList.length := by
      have hpow := (Nat.ge_two_pow_of_testBit hplace).trans_lt (r.reach_lt (all_lt _))
      exact Nat.le_of_lt_succ ((Nat.pow_lt_pow_iff_right (by decide)).1 hpow)
    have hfront : (text.toList.take place).length = place := List.length_take_of_le hle
    rw [← hfront] at hplace
    obtain ⟨before, piece, heq, -, hmatches⟩ :=
      (r.follows_reach _ (text.toList.take place) (text.toList.drop place) (List.take_append_drop _ _)).1 hplace
    exact ⟨before, piece, _, by rw [← heq, List.take_append_drop], hmatches⟩
  · rintro ⟨before, piece, after, htext, hmatches⟩ hzero
    have hbegin : (1 <<< (text.toList.length + 1) - 1).testBit before.length = true := by
      simp only [testBit_all, htext, List.length_append, decide_eq_true_eq]
      omega
    have hplace := (r.follows_reach _ (before ++ piece) after htext.symm).2 ⟨before, piece, rfl, hbegin, hmatches⟩
    rw [hzero, Nat.zero_testBit] at hplace
    cases hplace

end Reach

section Sequence

variable {rs : List Regex} {set : CodePointSet} {before piece after : List Char}

theorem matches_seqAll_append (rs others : List Regex) :
    (seqAll (rs ++ others)).Matches = Then (seqAll rs).Matches (seqAll others).Matches := by
  induction rs with
  | nil => exact empty_then.symm
  | cons r rs ih =>
    have hcons : (seqAll (r :: rs ++ others)).Matches = Then r.Matches (seqAll (rs ++ others)).Matches := rfl
    rw [hcons, ih, ← then_assoc]
    rfl

theorem matches_seqAll_singleton (r : Regex) : (seqAll [r]).Matches = r.Matches := by
  have hsingle : (seqAll [r]).Matches = Then r.Matches fun _ piece _ => piece = [] := rfl
  funext before piece after
  rw [hsingle]
  refine propext ⟨?_, fun h => ⟨piece, [], by simp, by simpa using h, rfl⟩⟩
  rintro ⟨first, _, rfl, hfirst, rfl⟩
  simpa using hfirst

/-- Between the anchors of both ends a text is matched only as a whole. -/
theorem isMatch_anchored_iff {text : String} :
    (seqAll (.anchor .textStart :: rs ++ [.anchor .textEnd])).isMatch text = true ↔
      (seqAll rs).Matches [] text.toList [] := by
  have hmatches : (seqAll (.anchor .textStart :: rs ++ [.anchor .textEnd])).Matches =
      Then (Regex.anchor .textStart).Matches (Then (seqAll rs).Matches (Regex.anchor .textEnd).Matches) := by
    rw [← matches_seqAll_singleton (.anchor .textEnd), ← matches_seqAll_append]
    rfl
  rw [isMatch_iff, hmatches]
  constructor
  · rintro ⟨before, _, after, htext, _, _, rfl, ⟨rfl, hstart⟩, inner, _, rfl, hinner, rfl, hend⟩
    obtain rfl : before = [] := by simpa [Anchor.holds] using hstart
    obtain rfl : after = [] := by simpa [Anchor.holds] using hend
    rw [htext]
    simpa using hinner
  · intro hinner
    exact ⟨[], text.toList, [], by simp, [], text.toList, rfl, ⟨rfl, rfl⟩, text.toList, [], by simp,
      by simpa using hinner, rfl, rfl⟩

/-- As many characters of a set as there are. -/
theorem matches_times_chars_iff :
    (Regex.times (.chars set) 0 none).Matches before piece after ↔ ∀ c ∈ piece, set.contains c.toNat = true := by
  have hrepeats (count : Nat) (before piece : List Char) :
      Repeats (Regex.chars set).Matches count before piece after ↔
        piece.length = count ∧ ∀ c ∈ piece, set.contains c.toNat = true := by
    induction count generalizing before piece with
    | zero =>
      rw [Repeats, List.length_eq_zero_iff]
      refine ⟨?_, And.left⟩
      rintro rfl
      simp
    | succ count ih =>
      constructor
      · rintro ⟨_, rest, rfl, ⟨c, rfl, hc⟩, hrest⟩
        obtain ⟨hlength, hall⟩ := (ih _ _).1 hrest
        exact ⟨by simp [hlength], List.forall_mem_cons.2 ⟨hc, hall⟩⟩
      · rintro ⟨hlength, hall⟩
        cases piece with
        | nil => cases hlength
        | cons c rest =>
          obtain ⟨hc, hall⟩ := List.forall_mem_cons.1 hall
          exact ⟨[c], rest, rfl, ⟨c, rfl, hc⟩, (ih _ _).2 ⟨Nat.succ.inj hlength, hall⟩⟩
  constructor
  · rintro ⟨count, -, -, hcount⟩
    exact ((hrepeats count before piece).1 hcount).2
  · exact fun hall => ⟨piece.length, Nat.zero_le _, by simp, (hrepeats _ _ _).2 ⟨rfl, hall⟩⟩

end Sequence

end FieldRules.Regex
