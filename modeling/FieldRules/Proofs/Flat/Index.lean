import FieldRules.Decimal.Numeral
import FieldRules.Flat.Path
import Mathlib.Algebra.Group.Nat.Defs
import Mathlib.Data.List.Induction
import Mathlib.Tactic.ByContra

/-!
The segments that denote array positions are exactly the decimal texts of the natural numbers.
-/

namespace FieldRules

namespace Numeral

theorem ofDigits_concat (radix : Nat) (digits : List Char) (c : Char) :
    ofDigits radix (digits ++ [c]) = ofDigits radix digits * radix + digitValue c := by
  simp [ofDigits]

theorem digitValue_digitChar {n : Nat} (hn : n < 10) : digitValue n.digitChar = n := by
  have hdigit : n.digitChar.isDigit = true := by simpa using hn
  rw [digitValue, if_pos hdigit, Nat.toNat_digitChar_sub_48_of_lt_ten hn]

theorem isDigit_iff {c : Char} : c.isDigit = true ↔ 48 ≤ c.toNat ∧ c.toNat ≤ 57 := by
  simp [Char.isDigit, UInt32.le_iff_toNat_le]

/-- A decimal digit is the character of its value. -/
theorem digitChar_digitValue {c : Char} (hc : c.isDigit = true) :
    digitValue c < 10 ∧ (digitValue c).digitChar = c := by
  have hrange := isDigit_iff.1 hc
  obtain ⟨k, hk⟩ : ∃ k, c.toNat = 48 + k := ⟨c.toNat - 48, by omega⟩
  have hvalue : digitValue c = k := by
    rw [digitValue, if_pos hc, hk]
    omega
  have hlt : k < 10 := by omega
  rw [hvalue]
  refine ⟨hlt, Char.toNat_inj.1 ?_⟩
  rw [Nat.toNat_digitChar_of_lt_ten hlt, hk]

end Numeral

namespace Path

open Numeral

theorem toList_ofIndex (n : Nat) : (ofIndex n).toList = Nat.toDigits 10 n := by
  simp [ofIndex]

theorem ofDigits_toDigits (n : Nat) : ofDigits 10 (Nat.toDigits 10 n) = n := by
  induction n using Nat.strongRecOn with
  | ind n ih =>
    rw [Nat.toDigits_eq_if (by decide)]
    split
    · next hlt => simp [ofDigits, digitValue_digitChar hlt]
    · next hge =>
      rw [ofDigits_concat, ih (n / 10) (by omega), digitValue_digitChar (by omega)]
      omega

/-- The number of a position is read back from its segment. -/
@[simp] theorem ofDigits_ofIndex (n : Nat) : ofDigits 10 (ofIndex n).toList = n := by
  rw [toList_ofIndex, ofDigits_toDigits]

theorem ofIndex_inj {n m : Nat} : ofIndex n = ofIndex m ↔ n = m := by
  constructor
  · intro h
    rw [← ofDigits_ofIndex n, h, ofDigits_ofIndex]
  · exact congrArg _

/-- What makes digits canonical: a zero in front stands alone. -/
theorem isIndexChars_iff {digits : List Char} :
    isIndexChars digits = true ↔
      digits ≠ [] ∧ (∀ c ∈ digits, c.isDigit = true) ∧ (digits.head? = some '0' → digits = ['0']) := by
  fun_cases isIndexChars digits with
  | case1 => simp
  | case2 => simp
  | case3 rest hrest =>
    have hne : rest ≠ [] := fun h => hrest (by rw [h])
    simp [hne]
  | case4 digits hnil hzero hlead =>
    have hhead : digits.head? ≠ some '0' := by
      intro h
      obtain ⟨rest, hrest⟩ := List.head?_eq_some_iff.1 h
      exact hlead rest hrest
    have hne : digits ≠ [] := hnil
    simp [hhead, hne]

theorem head_toDigits_ne_zero {n : Nat} (hn : 0 < n) : (Nat.toDigits 10 n).head? ≠ some '0' := by
  induction n using Nat.strongRecOn with
  | ind n ih =>
    rw [Nat.toDigits_eq_if (by decide)]
    split
    · next hlt =>
      intro h
      have hzero : n = 0 := by simpa using h
      omega
    · next hge =>
      obtain ⟨c, rest, hdigits⟩ := List.exists_cons_of_ne_nil (Nat.toDigits_ne_nil (n := n / 10) (b := 10))
      have hne := ih (n / 10) (by omega) (by omega)
      rw [hdigits] at hne ⊢
      simpa using hne

@[simp] theorem isIndex_ofIndex (n : Nat) : isIndex (ofIndex n) = true := by
  rw [isIndex, toList_ofIndex, isIndexChars_iff]
  refine ⟨Nat.toDigits_ne_nil, ?_, ?_⟩
  · intro c hc
    exact Nat.isDigit_of_mem_toDigits (by decide) (by decide) hc
  · intro hhead
    rcases Nat.eq_zero_or_pos n with rfl | hpos
    · simp
    · exact absurd hhead (head_toDigits_ne_zero hpos)

theorem ofIndex_ne_empty (n : Nat) : ofIndex n ≠ "" := by
  intro hempty
  have hindex := isIndex_ofIndex n
  rw [hempty] at hindex
  cases hindex

/-- Digits without a leading zero are the digits of the number that they spell. -/
theorem toDigits_ofDigits {digits : List Char} (hne : digits ≠ [])
    (hdigits : ∀ c ∈ digits, c.isDigit = true) (hlead : digits.head? ≠ some '0') :
    0 < ofDigits 10 digits ∧ Nat.toDigits 10 (ofDigits 10 digits) = digits := by
  induction digits using List.reverseRecOn with
  | nil => exact absurd rfl hne
  | append_singleton front c ih =>
    obtain ⟨hlt, hchar⟩ := digitChar_digitValue (hdigits c (by simp))
    rw [ofDigits_concat]
    by_cases hfront : front = []
    · subst hfront
      have hpos : 0 < digitValue c := by
        by_contra hnot
        have hzero : digitValue c = 0 := by omega
        rw [hzero] at hchar
        exact hlead (by rw [← hchar]; rfl)
      simp [ofDigits, hpos, Nat.toDigits_of_lt_base hlt, hchar]
    · have hleadFront : front.head? ≠ some '0' := by
        obtain ⟨d, rest, rfl⟩ := List.exists_cons_of_ne_nil hfront
        simpa using hlead
      obtain ⟨hpos, hfrontDigits⟩ := ih hfront (fun d hd => hdigits d (by simp [hd])) hleadFront
      refine ⟨by omega, ?_⟩
      rw [Nat.mul_comm, ← Nat.toDigits_append_toDigits (by decide) hpos hlt, hfrontDigits,
        Nat.toDigits_of_lt_base hlt, hchar]

/-- A segment denotes a position exactly if it is the text of one. -/
theorem isIndex_iff {segment : String} : isIndex segment = true ↔ ∃ n, segment = ofIndex n := by
  constructor
  · intro h
    refine ⟨ofDigits 10 segment.toList, String.toList_inj.1 ?_⟩
    obtain ⟨hne, hdigits, hlead⟩ := isIndexChars_iff.1 h
    rw [toList_ofIndex]
    by_cases hzero : segment.toList.head? = some '0'
    · rw [hlead hzero]
      decide
    · exact (toDigits_ofDigits hne hdigits hzero).2.symm
  · rintro ⟨n, rfl⟩
    exact isIndex_ofIndex n

/-- The position that a segment denotes. -/
def index? (segment : String) : Option Nat :=
  if isIndex segment then some (ofDigits 10 segment.toList) else none

theorem index?_eq_some_iff {segment : String} {n : Nat} :
    index? segment = some n ↔ segment = ofIndex n := by
  constructor
  · intro h
    rw [index?, Option.ite_none_right_eq_some] at h
    obtain ⟨m, rfl⟩ := isIndex_iff.1 h.1
    simpa [ofIndex_inj] using h.2
  · rintro rfl
    simp [index?]

@[simp] theorem index?_ofIndex (n : Nat) : index? (ofIndex n) = some n :=
  index?_eq_some_iff.2 rfl

end Path

namespace Numeral

theorem natural?_toDigits (n : Nat) : natural? 10 (Nat.toDigits 10 n) = some n := by
  have hdigits : (Nat.toDigits 10 n).any (fun c => 10 ≤ digitValue c) = false := by
    rw [List.any_eq_false]
    intro c hc
    have hlt := (digitChar_digitValue (Nat.isDigit_of_mem_toDigits (by decide) (by decide) hc)).1
    simpa using hlt
  rw [natural?, hdigits, Path.ofDigits_toDigits]
  simp [Nat.toDigits_ne_nil]

/-- No sign stands in front of the digits of a number. -/
theorem head_toDigits_ne {c : Char} (hc : c.isDigit = false) (n : Nat) (rest : List Char) :
    Nat.toDigits 10 n ≠ c :: rest := by
  intro hdigits
  have hdigit : c.isDigit = true :=
    Nat.isDigit_of_mem_toDigits (b := 10) (n := n) (by decide) (by decide) (by simp [hdigits])
  rw [hc] at hdigit
  cases hdigit

theorem unsigned?_toDigits (n : Nat) : unsigned? 10 (Nat.toDigits 10 n) = some n := by
  unfold unsigned?
  split
  · next hdigits => exact absurd hdigits (head_toDigits_ne (by decide) n _)
  · exact natural?_toDigits n

/-- The number of a position is read back from its segment if it fits a word. -/
theorem word?_ofIndex (n : Nat) : word? (Path.ofIndex n).toList = if n < 2 ^ 64 then some n else none := by
  have hsize : 0x10000000000000000 = 2 ^ 64 := by decide
  rw [word?, Path.toList_ofIndex, unsigned?_toDigits, Option.filter_some, hsize]
  simp only [decide_eq_true_eq]

end Numeral

end FieldRules
