import FieldRules.Proofs.Regex.Match
import FieldRules.Regex.Read

/-!
What the reader makes of the texts from which expressions are put together. A text with its meaningful characters
escaped is read as these characters, one by one, so that it matches nothing but itself.
-/

namespace FieldRules.Regex

/-- A character that stands for itself. -/
def literal (c : Char) : Regex := .chars ⟨[(c.toNat, c.toNat)]⟩

/-- Any character but a line feed. -/
def withinLine : Regex := .chars (CodePointSet.mk [(10, 10)]).complement

section Matches

variable {c : Char} {s before piece after : List Char}

theorem contains_ofRanges_singleton {first last n : Nat} (h : first ≤ last) :
    (CodePointSet.ofRanges [(first, last)]).contains n = true ↔ first ≤ n ∧ n ≤ last := by
  simp [CodePointSet.ofRanges, h, CodePointSet.mergeFrom, CodePointSet.contains]

theorem matches_literal_iff : (literal c).Matches before piece after ↔ piece = [c] := by
  have hcontains (d : Char) : (CodePointSet.mk [(c.toNat, c.toNat)]).contains d.toNat = true ↔ d = c := by
    rw [← Char.toNat_inj]
    simp [CodePointSet.contains, Nat.le_antisymm_iff, and_comm]
  simp only [literal, Matches, hcontains, exists_eq_right]

/-- What a text is read as matches this text alone. -/
theorem matches_literals_iff : (seqAll (s.map literal)).Matches before piece after ↔ piece = s := by
  induction s generalizing before piece with
  | nil => rfl
  | cons c s ih =>
    constructor
    · rintro ⟨_, rest, rfl, hfirst, hrest⟩
      rw [matches_literal_iff.1 hfirst, ih.1 hrest, List.singleton_append]
    · rintro rfl
      exact ⟨[c], s, rfl, matches_literal_iff.2 rfl, ih.2 rfl⟩

theorem contains_complement_lineFeed (c : Char) :
    (CodePointSet.mk [(10, 10)]).complement.contains c.toNat = true ↔ c ≠ '\n' := by
  have hset : (CodePointSet.mk [(10, 10)]).complement = ⟨[(0, 9), (11, 0x10FFFF)]⟩ := by decide
  have htop : c.toNat < 0x110000 := by
    rcases c.valid with h | h <;> simp only [Char.toNat] <;> omega
  have hfeed : c = '\n' ↔ c.toNat = 10 := by rw [← Char.toNat_inj]; rfl
  rw [hset, Ne, hfeed]
  simp only [CodePointSet.contains, List.any_cons, List.any_nil, Bool.or_false, Bool.or_eq_true, Bool.and_eq_true,
    decide_eq_true_eq]
  omega

end Matches

/-- The group with further expressions behind those of its current branch. -/
def Group.addAll (g : Group) (rs : List Regex) : Group := { g with items := (rs.map some).reverse ++ g.items }

theorem Group.addAll_append (g : Group) (rs others : List Regex) :
    g.addAll (rs ++ others) = (g.addAll rs).addAll others := by
  simp [addAll]

theorem Group.close_addAll_empty (rs : List Regex) : (Group.empty.addAll rs).close = seqAll rs := by
  simp [close, branch, addAll, empty]

/-- From the state on the text is read to its end as the expression. -/
def Reads (st : Reading) (s : List Char) (r : Regex) : Prop := ∀ fuel, s.length < fuel → loop fuel st s = some r

/-- The text adds the expressions where it stands outside of groups. -/
structure Adds (s : List Char) (rs : List Regex) : Prop where
  /-- It does not begin with a mark that would belong to a repetition before it. -/
  head : s.head? ≠ some '?'
  reads : ∀ {group : Group} {names : List (List Char)} {rest : List Char} {r : Regex}, rest.head? ≠ some '?' →
    Reads ⟨group.addAll rs, [], .initial, names⟩ rest r → Reads ⟨group, [], .initial, names⟩ (s ++ rest) r

namespace Adds

variable {s t : List Char} {rs others : List Regex}

/-- A text adds what reading it adds, which takes no more rounds than it has characters. -/
theorem of_loop (rounds : Nat) (hhead : s.head? ≠ some '?') (hrounds : rounds ≤ s.length)
    (hloop : ∀ fuel group names rest, rest.head? ≠ some '?' → loop (fuel + rounds) ⟨group, [], .initial, names⟩
      (s ++ rest) = loop fuel ⟨group.addAll rs, [], .initial, names⟩ rest) : Adds s rs := by
  refine ⟨hhead, fun {group names rest r} hrest hreads fuel hfuel => ?_⟩
  rw [List.length_append] at hfuel
  obtain ⟨fuel, rfl⟩ := Nat.exists_eq_add_of_le' (show rounds ≤ fuel by omega)
  rw [hloop fuel group names rest hrest]
  exact hreads fuel (by omega)

theorem nil : Adds [] [] := ⟨by simp, fun _ h => h⟩

theorem append (h : Adds s rs) (hother : Adds t others) : Adds (s ++ t) (rs ++ others) := by
  have hhead {u : List Char} (hu : u.head? ≠ some '?') : (t ++ u).head? ≠ some '?' := by
    cases t with
    | nil => exact hu
    | cons c t => exact hother.head
  refine ⟨?_, fun hrest hreads => ?_⟩
  · cases s with
    | nil => exact hother.head
    | cons c s => exact h.head
  · rw [List.append_assoc]
    rw [Group.addAll_append] at hreads
    exact h.reads (hhead hrest) (hother.reads hrest hreads)

theorem flatMap {α : Type} {items : List α} {text : α → List Char} {elements : α → List Regex}
    (h : ∀ item ∈ items, Adds (text item) (elements item)) : Adds (items.flatMap text) (items.flatMap elements) := by
  induction items with
  | nil => exact nil
  | cons item items ih =>
    rw [List.flatMap_cons, List.flatMap_cons]
    obtain ⟨hitem, hitems⟩ := List.forall_mem_cons.1 h
    exact hitem.append (ih hitems)

theorem textStart : Adds ['^'] [.anchor .textStart] :=
  .of_loop 1 (by simp) le_rfl fun _ _ _ _ _ => rfl

theorem textEnd : Adds ['$'] [.anchor .textEnd] :=
  .of_loop 1 (by simp) le_rfl fun _ _ _ _ _ => rfl

theorem dot : Adds ['.'] [withinLine] :=
  .of_loop 1 (by simp) le_rfl fun _ _ _ _ _ => rfl

/-- A question mark behind the asterisk would belong to it. -/
theorem dots : Adds ['.', '*'] [.times withinLine 0 none] := by
  refine .of_loop 2 (by simp) le_rfl fun fuel group names rest hrest => ?_
  have hskip : skipLazy .initial rest = rest := by
    rw [skipLazy, Flags.skip, if_neg (by decide)]
    split
    · exact absurd rfl hrest
    · rfl
  conv_rhs => rw [← hskip]
  rfl

end Adds

section Escape

variable {c : Char}

/-- A character that has no other meaning is read as it is. -/
theorem step_of_not_isMeta (hc : isMeta c = false) (st : Reading) (rest : List Char) :
    step st (c :: rest) = some ({ st with group := st.group.add (some (ofAtom st.flags (.char c))) }, rest) := by
  have hne {d : Char} (hd : isMeta d = true) : c ≠ d := by
    rintro rfl
    rw [hc] at hd
    cases hd
  unfold step
  split
  case h_1 heq => cases heq
  case h_14 heq =>
    cases heq
    rfl
  all_goals
    next heq =>
      cases heq
      exact absurd rfl (hne (by decide))

/-- Behind a backslash a character that has another meaning is read as it is. -/
theorem escape?_of_isMeta (hc : isMeta c = true) (f : Flags) (rest : List Char) :
    escape? f (c :: rest) = some (.char c, f.skip rest) := by
  have hne {d : Char} (hd : isMeta d = false) : c ≠ d := by
    rintro rfl
    rw [hc] at hd
    cases hd
  have hescapable : isEscapable c = true := by rw [isEscapable, hc, Bool.true_or]
  unfold escape?
  simp only
  split
  case h_24 => exact if_pos hescapable
  all_goals exact absurd rfl (hne (by decide))

theorem loop_cons (fuel : Nat) (group : Group) (names : List (List Char)) (s : List Char) :
    loop (fuel + 1) ⟨group, [], .initial, names⟩ (c :: s) =
      (step ⟨group, [], .initial, names⟩ (c :: s)).bind fun next => loop fuel next.1 next.2 := rfl

theorem Adds.escapeChar (c : Char) : Adds (escapeChar c) [literal c] := by
  rw [Regex.escapeChar]
  split
  · next hc =>
    refine .of_loop 1 (by simp) (by simp) fun fuel group names rest _ => ?_
    have hstep : step ⟨group, [], .initial, names⟩ ('\\' :: c :: rest) =
        (escape? .initial (c :: rest)).map fun next =>
          (⟨group.add (some (ofAtom .initial next.1)), [], .initial, names⟩, next.2) := rfl
    rw [List.cons_append, List.singleton_append, loop_cons, hstep, escape?_of_isMeta hc]
    rfl
  · next hc =>
    rw [Bool.not_eq_true] at hc
    have hquestion : c ≠ '?' := by
      rintro rfl
      cases hc
    refine .of_loop 1 (by simpa using hquestion) le_rfl fun fuel group names rest _ => ?_
    rw [List.singleton_append, loop_cons, step_of_not_isMeta hc]
    rfl

theorem Adds.escape (s : List Char) : Adds (escape s) (s.map literal) := by
  rw [List.map_eq_flatMap]
  exact .flatMap fun c _ => .escapeChar c

end Escape

section Index

/-- The digits from one to the last. -/
def digitsFrom (first : Nat) : Regex := .chars (.ofRanges [(first, 57)])

/-- The texts of positions: a zero, or digits that begin with another one. -/
def position : Regex :=
  .either (seqAll [literal '0']) (seqAll [digitsFrom 49, .times (digitsFrom 48) 0 none])

theorem Adds.position : Adds "(0|[1-9][0-9]*)".toList [Regex.position] :=
  .of_loop 7 (by simp) (by simp) fun _ _ _ _ _ => rfl

end Index

section Whole

variable {s : List Char} {rs : List Regex}

/-- A text that adds expressions is read as their sequence. -/
theorem parse?_of_adds (h : Adds s rs) : parse? (String.ofList s) = some (seqAll rs) := by
  have hreads : Reads ⟨.empty, [], .initial, []⟩ (s ++ []) (seqAll rs) := by
    refine h.reads (by simp) fun fuel hfuel => ?_
    obtain ⟨fuel, rfl⟩ := Nat.exists_eq_succ_of_ne_zero (Nat.ne_of_gt hfuel)
    exact congrArg some (Group.close_addAll_empty rs)
  rw [List.append_nil] at hreads
  rw [parse?, String.toList_ofList]
  exact hreads (s.length + 1) (Nat.lt_succ_self _)

/-- Between the marks for both ends, it is read as an expression that has to match as a whole. -/
theorem exists_parse?_of_adds (h : Adds s rs) :
    ∃ r, parse? (String.ofList (['^'] ++ s ++ ['$'])) = some r ∧
      ∀ text, r.isMatch text = true ↔ (seqAll rs).Matches [] text.toList [] :=
  ⟨_, parse?_of_adds ((Adds.textStart.append h).append .textEnd), fun _ => isMatch_anchored_iff⟩

end Whole

end FieldRules.Regex
