import FieldRules.Text.Blank
import FieldRules.Text.Case
import Mathlib.Data.List.DropRight

/-!
Texts that have been trimmed or put into upper or lower case stay as they are when that is done again. The tables of
case mappings see to it: no code point that one of them maps to is mapped on. What is capitalized need not stay as it
is, since a first character may become several, of which those behind the first are capitals as well.
-/

namespace FieldRules.Text

namespace CaseRun

/-- The code points that a run maps. -/
def points (run : CaseRun) : List Nat :=
  List.range' run.first ((run.last - run.first) / run.stride + 1) run.stride

theorem mem_points_of_covers {run : CaseRun} {n : Nat} (h : run.covers n = true) : n ∈ run.points := by
  simp only [covers, Bool.and_eq_true, decide_eq_true_eq, beq_iff_eq] at h
  obtain ⟨⟨hfirst, hlast⟩, hstride⟩ := h
  have hle := Nat.div_le_div_right (c := run.stride) (Nat.sub_le_sub_right hlast run.first)
  have hdiv := Nat.mul_div_cancel' (Nat.dvd_of_mod_eq_zero hstride)
  exact List.mem_range'.2 ⟨(n - run.first) / run.stride, by omega, by omega⟩

/-- The code points that runs map, run by run. -/
def sources (runs : List CaseRun) : List (List Nat) := runs.map points

/-- The code points that runs map to, run by run. -/
def images (runs : List CaseRun) : List (List Nat) := runs.map fun run => run.points.map run.image

theorem map?_eq_none {runs : List CaseRun} {n : Nat} (h : n ∉ (sources runs).flatten) : map? runs n = none := by
  rw [map?, Option.map_eq_none_iff, List.find?_eq_none]
  exact fun run hrun hcovers =>
    h (List.mem_flatten_of_mem (List.mem_map_of_mem hrun) (mem_points_of_covers hcovers))

theorem mem_images_of_map?_eq_some {runs : List CaseRun} {n m : Nat} (h : map? runs n = some m) :
    m ∈ (images runs).flatten := by
  obtain ⟨run, hrun, rfl⟩ := Option.map_eq_some_iff.1 h
  have hcovers := List.find?_some hrun
  exact List.mem_flatten_of_mem (List.mem_map_of_mem (List.mem_of_find?_eq_some hrun))
    (List.mem_map_of_mem (mem_points_of_covers hcovers))

/-- The code points that upper case changes. -/
def uppered : List (List Nat) := upperExpansions.map (·.1) :: sources upper

/-- The code points that upper case changes them to. -/
def upperImages : List (List Nat) := upperExpansions.map (·.2) ++ images upper

/-- The code points that lower case changes, the dotted capital I among them. -/
def lowered : List (List Nat) := [0x130] :: sources lower

/-- The code points that lower case changes them to. -/
def lowerImages : List (List Nat) := [0x69, 0x307] :: images lower

/-- A set of numbers as the number that has these bits. -/
def bits (set : List Nat) : Nat := set.foldr (fun n others => 1 <<< n ||| others) 0

theorem testBit_bits (set : List Nat) (n : Nat) : (bits set).testBit n = true ↔ n ∈ set := by
  induction set with
  | nil => simp [bits]
  | cons m set ih =>
    change (1 <<< m ||| bits set).testBit n = true ↔ _
    rw [Nat.testBit_or, Bool.or_eq_true, ih, Nat.one_shiftLeft, Nat.testBit_two_pow, decide_eq_true_iff,
      List.mem_cons, eq_comm]

/-- All numbers of some sets as bits. -/
def union (sets : List (List Nat)) : Nat := sets.foldr (fun set others => bits set ||| others) 0

theorem testBit_union (sets : List (List Nat)) (n : Nat) : (union sets).testBit n = true ↔ n ∈ sets.flatten := by
  induction sets with
  | nil => simp [union]
  | cons set sets ih =>
    change (bits set ||| union sets).testBit n = true ↔ _
    rw [Nat.testBit_or, Bool.or_eq_true, testBit_bits, ih, List.flatten_cons, List.mem_append]

/-- Sets are compared as numbers, which takes one step for all that is in them. -/
theorem disjoint_of_union {sets others : List (List Nat)} (h : union sets &&& union others = 0) :
    sets.flatten.Disjoint others.flatten := by
  intro n hn hother
  have hbit : (union sets &&& union others).testBit n = true := by
    rw [Nat.testBit_and, (testBit_union sets n).2 hn, (testBit_union others n).2 hother, Bool.and_self]
  rw [h, Nat.zero_testBit] at hbit
  cases hbit

/-- What a mapping gives are code points of characters that it does not change. -/
structure Final (given changed : List (List Nat)) : Prop where
  valid : ∀ set ∈ given, ∀ n ∈ set, n.isValidChar
  fixed : union given &&& union changed = 0

theorem Final.not_mem {given changed : List (List Nat)} (h : Final given changed) {n : Nat} (hn : n ∈ given.flatten) :
    (Char.ofNat n).toNat ∉ changed.flatten := by
  obtain ⟨set, hset, hmem⟩ := List.mem_flatten.1 hn
  have hchar : (Char.ofNat n).toNat = n := by
    rw [Char.ofNat, dif_pos (h.valid set hset n hmem)]
    rfl
  rw [hchar]
  exact disjoint_of_union h.fixed hn

theorem upper_final : Final upperImages uppered := ⟨by decide +kernel, by decide +kernel⟩

theorem lower_final : Final lowerImages lowered := ⟨by decide +kernel, by decide +kernel⟩

end CaseRun

open CaseRun

section Upper

variable {c d : Char}

theorem upperChar_eq_self (h : c.toNat ∉ uppered.flatten) : upperChar c = [c] := by
  rw [uppered, List.flatten_cons, List.mem_append, not_or] at h
  have hexpansion : upperExpansions.find? (·.1 == c.toNat) = none := by
    rw [List.find?_eq_none]
    exact fun entry hentry heq => h.1 (beq_iff_eq.1 heq ▸ List.mem_map_of_mem hentry)
  rw [upperChar, hexpansion, map?_eq_none h.2]

theorem exists_of_mem_upperChar (h : upperChar c ≠ [c]) (hd : d ∈ upperChar c) :
    ∃ n ∈ upperImages.flatten, Char.ofNat n = d := by
  rw [upperImages, List.flatten_append]
  rw [upperChar] at h hd
  cases hexpansion : upperExpansions.find? (·.1 == c.toNat) with
  | some entry =>
    rw [hexpansion] at hd
    obtain ⟨n, hn, rfl⟩ := List.mem_map.1 hd
    have hset := List.mem_map_of_mem (f := Prod.snd) (List.mem_of_find?_eq_some hexpansion)
    exact ⟨n, List.mem_append_left _ (List.mem_flatten_of_mem hset hn), rfl⟩
  | none =>
    rw [hexpansion] at h hd
    cases hmap : map? upper c.toNat with
    | some n =>
      rw [hmap, List.mem_singleton] at hd
      exact ⟨n, List.mem_append_right _ (mem_images_of_map?_eq_some hmap), hd.symm⟩
    | none => exact absurd (by rw [hmap]) h

/-- The characters of an upper case are their own upper case. -/
theorem upperChar_of_mem_upperChar (hd : d ∈ upperChar c) : upperChar d = [d] := by
  by_cases h : upperChar c = [c]
  · rw [h, List.mem_singleton] at hd
    rw [hd, h]
  · obtain ⟨n, hn, rfl⟩ := exists_of_mem_upperChar h hd
    exact upperChar_eq_self (upper_final.not_mem hn)

theorem upperChar_ne_nil (c : Char) : upperChar c ≠ [] := by
  have hexpansions : ∀ entry ∈ upperExpansions, entry.2 ≠ [] := by decide
  rw [upperChar]
  cases hexpansion : upperExpansions.find? (·.1 == c.toNat) with
  | some entry => exact mt List.map_eq_nil_iff.1 (hexpansions entry (List.mem_of_find?_eq_some hexpansion))
  | none => cases map? upper c.toNat <;> exact List.cons_ne_nil _ _

theorem upperChars_upperChars (s : List Char) : upperChars (upperChars s) = upperChars s := by
  have hself : ∀ c ∈ upperChars s, upperChar c = [c] := by
    intro c hc
    obtain ⟨before, -, hc⟩ := List.mem_flatMap.1 hc
    exact upperChar_of_mem_upperChar hc
  rw [upperChars, List.flatMap_congr hself, List.flatMap_singleton']

end Upper

section Lower

variable {c d : Char}

theorem lowerChar_eq_self (h : c.toNat ∉ lowered.flatten) : lowerChar c = [c] := by
  rw [lowered, List.flatten_cons, List.mem_append, List.mem_singleton, not_or] at h
  rw [lowerChar, if_neg (by rintro rfl; exact h.1 rfl), map?_eq_none h.2]

theorem exists_of_mem_lowerChar (h : lowerChar c ≠ [c]) (hd : d ∈ lowerChar c) :
    ∃ n ∈ lowerImages.flatten, Char.ofNat n = d := by
  rw [lowerImages, List.flatten_cons]
  rw [lowerChar] at h hd
  split at hd
  · rcases List.mem_pair.1 hd with rfl | rfl
    · exact ⟨0x69, List.mem_cons_self, rfl⟩
    · exact ⟨0x307, List.mem_cons_of_mem _ List.mem_cons_self, rfl⟩
  · next hdotted =>
    rw [if_neg hdotted] at h
    cases hmap : map? lower c.toNat with
    | some n =>
      rw [hmap, List.mem_singleton] at hd
      exact ⟨n, List.mem_append_right _ (mem_images_of_map?_eq_some hmap), hd.symm⟩
    | none => exact absurd (by rw [hmap]) h

/-- The characters of a lower case are their own lower case. -/
theorem lowerChar_of_mem_lowerChar (hd : d ∈ lowerChar c) : lowerChar d = [d] := by
  by_cases h : lowerChar c = [c]
  · rw [h, List.mem_singleton] at hd
    rw [hd, h]
  · obtain ⟨n, hn, rfl⟩ := exists_of_mem_lowerChar h hd
    exact lowerChar_eq_self (lower_final.not_mem hn)

/-- Both small sigmas are as well, so that it is the same wherever a capital sigma stands. -/
theorem lowerChar_of_mem_lowerFrom {before s : List Char} (hd : d ∈ lowerFrom before s) : lowerChar d = [d] := by
  induction s generalizing before with
  | nil => cases hd
  | cons c s ih =>
    rw [lowerFrom, List.mem_append] at hd
    rcases hd with hd | hd
    · split at hd
      · have hsigmas : lowerChar 'ς' = ['ς'] ∧ lowerChar 'σ' = ['σ'] := by decide +kernel
        split at hd
        · rw [List.mem_singleton.1 hd, hsigmas.1]
        · rw [List.mem_singleton.1 hd, hsigmas.2]
      · exact lowerChar_of_mem_lowerChar hd
    · exact ih hd

theorem lowerFrom_eq_self {before s : List Char} (h : ∀ c ∈ s, lowerChar c = [c]) : lowerFrom before s = s := by
  induction s generalizing before with
  | nil => rfl
  | cons c s ih =>
    obtain ⟨hc, hs⟩ := List.forall_mem_cons.1 h
    have hsigma : c ≠ 'Σ' := by
      rintro rfl
      exact absurd hc (by decide +kernel)
    rw [lowerFrom, ih hs]
    simp only [if_neg hsigma, hc, List.singleton_append]

/-- A text is in lower case if all its characters are. -/
theorem lowerChars_eq_self_iff {s : List Char} : lowerChars s = s ↔ ∀ c ∈ s, lowerChar c = [c] :=
  ⟨fun h _ hc => lowerChar_of_mem_lowerFrom (h ▸ hc), lowerFrom_eq_self⟩

theorem lowerChars_lowerChars (s : List Char) : lowerChars (lowerChars s) = lowerChars s :=
  lowerChars_eq_self_iff.2 fun _ => lowerChar_of_mem_lowerFrom

end Lower

section Capitalize

variable {s : String}

/-- The first character becomes one character in upper case, or several of which the others are in lower case. -/
def StaysCapitalized (s : String) : Prop := ∀ c ∈ s.toList.head?, ∀ d ∈ (upperChar c).tail, lowerChar d = [d]

theorem toList_capitalize {c : Char} {rest : List Char} (h : s.toList = c :: rest) :
    (capitalize s).toList = upperChar c ++ lowerChars rest := by
  rw [capitalize, h, String.toList_ofList]

/-- The first character becomes one that is its own upper case. -/
theorem exists_toList_capitalize {c : Char} {rest : List Char} (h : s.toList = c :: rest) :
    ∃ first, upperChar first = [first] ∧
      (capitalize s).toList = first :: ((upperChar c).tail ++ lowerChars rest) := by
  obtain ⟨first, others, hupper⟩ := List.exists_cons_of_ne_nil (upperChar_ne_nil c)
  have hfirst : upperChar first = [first] := upperChar_of_mem_upperChar (hupper ▸ List.mem_cons_self)
  refine ⟨first, hfirst, ?_⟩
  rw [toList_capitalize h, hupper, List.tail_cons, List.cons_append]

theorem capitalize_eq_empty (h : s.toList = []) : capitalize s = "" := by
  rw [capitalize, h]

theorem capitalize_capitalize_eq_iff : capitalize (capitalize s) = capitalize s ↔ StaysCapitalized s := by
  cases hs : s.toList with
  | nil => simp [StaysCapitalized, hs, capitalize]
  | cons c rest =>
    obtain ⟨first, hfirst, hcapitalize⟩ := exists_toList_capitalize hs
    have hrest : ∀ d ∈ lowerChars rest, lowerChar d = [d] := fun _ => lowerChar_of_mem_lowerFrom
    rw [← String.toList_inj, toList_capitalize hcapitalize, hcapitalize, hfirst, List.singleton_append,
      List.cons_inj_right, lowerChars_eq_self_iff, List.forall_mem_append, and_iff_left hrest]
    simp [StaysCapitalized, hs]

theorem staysCapitalized_of_upperChar {c d : Char} {rest : List Char} (h : s.toList = c :: rest)
    (hupper : upperChar c = [d]) : StaysCapitalized s := by
  simp [StaysCapitalized, h, hupper]

/-- Capitalizing twice makes a text that stays. -/
theorem staysCapitalized_capitalize (s : String) : StaysCapitalized (capitalize s) := by
  cases hs : s.toList with
  | nil => simp [StaysCapitalized, capitalize_eq_empty hs]
  | cons c rest =>
    obtain ⟨first, hfirst, hcapitalize⟩ := exists_toList_capitalize hs
    exact staysCapitalized_of_upperChar hcapitalize hfirst

end Capitalize

theorem trim_trim (s : String) : trim (trim s) = trim s := by
  have htrim (s : String) : (trim s).toList = List.rdropWhile isBlank (s.toList.dropWhile isBlank) := by
    rw [trim, String.toList_ofList]
    rfl
  -- What is left of the text without its leading white space has the same first character, if any.
  have hstart : ((trim s).toList).dropWhile isBlank = (trim s).toList := by
    rw [htrim, List.dropWhile_eq_self_iff]
    intro hlength
    have hbegins := List.rdropWhile_prefix isBlank (s.toList.dropWhile isBlank)
    rw [hbegins.getElem hlength]
    exact List.dropWhile_get_zero_not isBlank s.toList (hlength.trans_le hbegins.length_le)
  rw [← String.toList_inj, htrim (trim s), hstart, htrim s, List.rdropWhile_idempotent]

end FieldRules.Text
