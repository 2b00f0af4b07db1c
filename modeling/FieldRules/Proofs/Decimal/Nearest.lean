import FieldRules.Decimal.Shortest
import Mathlib.Data.Nat.Log
import Mathlib.Data.Rat.Cast.Order
import Mathlib.Tactic.Positivity
import Mathlib.Tactic.Ring

/-!
Rounding to the nearest binary64 number depends on the value of a quotient alone, and it gives a number back from its
own value. So the shortest decimal of a number determines the number, however the decimal is written.
-/

namespace FieldRules

/-- The number that a decimal stands for. -/
def Decimal.value (d : Decimal) : ℚ := d.digits * 10 ^ d.exponent

theorem Decimal.value_eq_div (d : Decimal) :
    d.value = ((d.digits * 10 ^ d.exponent.toNat : ℕ) : ℚ) / ((10 ^ (-d.exponent).toNat : ℕ) : ℚ) := by
  obtain ⟨digits, exponent⟩ := d
  obtain ⟨n, rfl | rfl⟩ := exponent.eq_nat_or_neg
  · simp [value]
  · simp [value, div_eq_mul_inv]

namespace Binary64

variable {num den : Nat} {negative : Bool}

theorem roundQuotient_mul_left {k : Nat} (hk : 0 < k) (num den : Nat) :
    roundQuotient (k * num) (k * den) = roundQuotient num den := by
  have htwice : 2 * (k * num % (k * den)) = k * (2 * (num % den)) := by
    rw [Nat.mul_mod_mul_left]
    ring
  simp only [roundQuotient, Nat.mul_div_mul_left _ _ hk, htwice, Nat.mul_lt_mul_left hk]

theorem roundQuotient_mul_self (hden : 0 < den) (quotient : Nat) : roundQuotient (quotient * den) den = quotient := by
  simp [roundQuotient, hden]

theorem nearest?_mul_left {k : Nat} (hk : 0 < k) (negative : Bool) (num den : Nat) :
    nearest? negative (k * num) (k * den) = nearest? negative num den := by
  have hshift (doublings : Nat) : (k * den) <<< doublings = k * (den <<< doublings) := by
    rw [Nat.shiftLeft_eq, Nat.shiftLeft_eq, Nat.mul_assoc]
  simp only [nearest?, Nat.mul_assoc, Nat.mul_div_mul_left _ _ hk, hshift, roundQuotient_mul_left hk]

/-- Equal quotients have the same nearest number. -/
theorem nearest?_congr {num' den' : Nat} (hden : 0 < den) (hden' : 0 < den') (h : num * den' = num' * den) :
    nearest? negative num den = nearest? negative num' den' := by
  calc nearest? negative num den = nearest? negative (den' * num) (den' * den) := (nearest?_mul_left hden' ..).symm
    _ = nearest? negative (den * num') (den * den') := by
      rw [Nat.mul_comm den' num, h, Nat.mul_comm num' den, Nat.mul_comm den' den]
    _ = nearest? negative num' den' := nearest?_mul_left hden ..

/-- The significand and the scale make up the value, and their fields the magnitude: below the first doubling the
significand is the magnitude, and above it has its hidden bit. -/
theorem units_cases (x : Binary64) :
    (x.units = x.magnitude ∧ x.magnitude < hiddenBit) ∨
    ∃ significand scale, x.units = significand * 2 ^ scale ∧ hiddenBit ≤ significand ∧ significand < 2 * hiddenBit ∧
      x.magnitude = scale * hiddenBit + significand := by
  rw [units, Nat.shiftLeft_eq, significand, scale]
  by_cases hsmall : x.magnitude < hiddenBit
  · rw [if_pos hsmall, Nat.div_eq_of_lt hsmall]
    exact .inl ⟨by simp, hsmall⟩
  · rw [if_neg hsmall]
    have hmod := Nat.mod_lt x.magnitude (show 0 < hiddenBit by decide)
    have hsum := Nat.div_add_mod x.magnitude hiddenBit
    have hdiv : 1 ≤ x.magnitude / hiddenBit := (Nat.one_le_div_iff (by decide)).2 (by omega)
    refine .inr ⟨_, _, rfl, by omega, by omega, ?_⟩
    rw [Nat.sub_mul, Nat.mul_comm (x.magnitude / hiddenBit)]
    have hge : hiddenBit ≤ hiddenBit * (x.magnitude / hiddenBit) := Nat.le_mul_of_pos_right _ hdiv
    omega

/-- A significand with its hidden bit has 53 digits in base two. -/
theorem log2_scaled {significand : Nat} (hlow : hiddenBit ≤ significand) (hhigh : significand < 2 * hiddenBit)
    (scale : Nat) : Nat.log2 (significand * 2 ^ scale) = 52 + scale := by
  have hpos : 0 < 2 ^ scale := by positivity
  have hne : significand * 2 ^ scale ≠ 0 := Nat.mul_ne_zero (by omega) hpos.ne'
  have hge : 52 + scale ≤ Nat.log2 (significand * 2 ^ scale) := by
    rw [Nat.le_log2 hne, Nat.pow_add]
    exact Nat.mul_le_mul_right _ hlow
  have hlt : Nat.log2 (significand * 2 ^ scale) < 53 + scale := by
    rw [Nat.log2_lt hne, Nat.pow_add]
    exact Nat.mul_lt_mul_of_pos_right hhigh hpos
  omega

/-- The units in one are a power of two. The exponent is kept apart, for the power is too large to be evaluated. -/
theorem unitsInOne_eq : ∃ places : Nat, places = 1074 ∧ unitsInOne = 2 ^ places := by
  rw [unitsInOne]
  generalize 1074 = places
  exact ⟨places, rfl, Nat.one_shiftLeft places⟩

theorem unitsInOne_pos : 0 < unitsInOne := by
  obtain ⟨places, -, hunits⟩ := unitsInOne_eq
  rw [hunits]
  positivity

/-- A number is the one nearest to its own value. -/
theorem nearest?_units (x : Binary64) : nearest? x.negative x.units unitsInOne = some x := by
  have hquotient : x.units * unitsInOne / unitsInOne = x.units := Nat.mul_div_cancel _ unitsInOne_pos
  have hmagnitude : (Nat.log2 x.units - 52) * hiddenBit +
      roundQuotient (x.units * unitsInOne) (unitsInOne <<< (Nat.log2 x.units - 52)) = x.magnitude := by
    rcases x.units_cases with ⟨hunits, hsmall⟩ | ⟨significand, scale, hunits, hlow, hhigh, hmagnitude⟩
    · have hlog : Nat.log2 x.units - 52 = 0 := by
        by_cases hzero : x.units = 0
        · simp [hzero]
        · have hlt : Nat.log2 x.units < 52 := (Nat.log2_lt hzero).2 (by rw [hunits]; exact hsmall)
          omega
      rw [hlog, Nat.zero_mul, Nat.zero_add, Nat.shiftLeft_zero, roundQuotient_mul_self unitsInOne_pos, hunits]
    · have hpos : 0 < 2 ^ scale := by positivity
      have hlog : Nat.log2 x.units - 52 = scale := by rw [hunits, log2_scaled hlow hhigh, Nat.add_sub_cancel_left]
      have hround : roundQuotient (x.units * unitsInOne) (unitsInOne <<< scale) = significand := by
        rw [hunits, Nat.shiftLeft_eq, Nat.mul_assoc, Nat.mul_comm (2 ^ scale)]
        exact roundQuotient_mul_self (Nat.mul_pos unitsInOne_pos hpos) _
      rw [hlog, hround, hmagnitude]
  simp only [nearest?, hquotient, hmagnitude, x.magnitude_lt, ↓reduceDIte]

theorem eight_pow_le_ten_pow (n : Nat) : 2 ^ (3 * n) ≤ 10 ^ n := by
  rw [Nat.pow_mul]
  exact Nat.pow_le_pow_left (by decide) n

/-- What is less than half a unit becomes zero. -/
theorem nearest?_eq_zero (h : 2 * (num * unitsInOne) < den) : nearest? negative num den = some (zero negative) := by
  have hdiv : num * unitsInOne / den = 0 := Nat.div_eq_of_lt (by omega)
  have hmod : num * unitsInOne % den = num * unitsInOne := Nat.mod_eq_of_lt (by omega)
  have hround : roundQuotient (num * unitsInOne) den = 0 := by simp only [roundQuotient, hdiv, hmod, h, ↓reduceIte]
  have hlog : Nat.log2 0 - 52 = 0 := by simp
  simp only [nearest?, hdiv, hlog, hround, Nat.shiftLeft_zero, Nat.zero_mul, Nat.zero_add]
  rfl

/-- What has too many doublings is beyond the finite numbers. -/
theorem nearest?_eq_none (doublings : Nat) (hden : 0 < den) (hdoublings : 1025 ≤ doublings)
    (h : 2 ^ doublings * den ≤ num) : nearest? negative num den = none := by
  obtain ⟨places, hplaces, hunits⟩ := unitsInOne_eq
  have hquotient : 2 ^ (doublings + places) ≤ num * unitsInOne / den := by
    rw [Nat.le_div_iff_mul_le hden, hunits, Nat.pow_add, Nat.mul_right_comm]
    exact Nat.mul_le_mul_right _ h
  have hlog : doublings + places ≤ Nat.log2 (num * unitsInOne / den) := by
    rw [Nat.le_log2 (Nat.lt_of_lt_of_le (by positivity) hquotient).ne']
    exact hquotient
  have hbeyond : ¬ (Nat.log2 (num * unitsInOne / den) - 52) * hiddenBit + roundQuotient (num * unitsInOne)
      (den <<< (Nat.log2 (num * unitsInOne / den) - 52)) < 0x7ff0000000000000 := by
    have hle : 2047 * hiddenBit ≤ (Nat.log2 (num * unitsInOne / den) - 52) * hiddenBit :=
      Nat.mul_le_mul_right _ (by omega)
    exact Nat.not_lt.2 (hle.trans (Nat.le_add_right _ _))
  simp only [nearest?, hbeyond, ↓reduceDIte]

/-- Reading a decimal rounds its value, also where the exponent alone tells what comes out. -/
theorem ofDecimal?_eq_nearest? (negative : Bool) (digits : Nat) (exponent : Int) :
    ofDecimal? negative digits exponent =
      nearest? negative (digits * 10 ^ exponent.toNat) (10 ^ (-exponent).toNat) := by
  have hten (n : Nat) : 0 < 10 ^ n := Nat.pow_pos (by decide)
  rw [ofDecimal?]
  split
  · next hzero =>
    rw [hzero, Nat.zero_mul, nearest?_eq_zero (by simp)]
  split
  · -- Beyond the finite numbers, however small the digits are.
    next hne hlarge =>
    have hden : (-exponent).toNat = 0 := by omega
    have hpow : 2 ^ (3 * exponent.toNat) ≤ digits * 10 ^ exponent.toNat :=
      (eight_pow_le_ten_pow _).trans (Nat.le_mul_of_pos_left _ (by omega))
    rw [hden, nearest?_eq_none (3 * exponent.toNat) (by decide) (by omega) (by simpa using hpow)]
  split
  · -- Below half a unit, since the digits are less than the next power of two.
    next hne _ hsmall =>
    have hnum : exponent.toNat = 0 := by omega
    obtain ⟨places, hplaces, hunits⟩ := unitsInOne_eq
    have hlt : 2 * (digits * 10 ^ 0 * unitsInOne) < 10 ^ (-exponent).toNat := by
      calc 2 * (digits * 10 ^ 0 * unitsInOne) = digits * 2 ^ (places + 1) := by
            rw [hunits]
            ring
        _ < 2 ^ (Nat.log2 digits + 1) * 2 ^ (places + 1) :=
            Nat.mul_lt_mul_of_pos_right Nat.lt_log2_self (by positivity)
        _ = 2 ^ (Nat.log2 digits + 1 + (places + 1)) := (Nat.pow_add ..).symm
        _ ≤ 2 ^ (3 * (-exponent).toNat) := Nat.pow_le_pow_right (by decide) (by omega)
        _ ≤ 10 ^ (-exponent).toNat := eight_pow_le_ten_pow _
    rw [hnum, nearest?_eq_zero hlt]
  split
  · next hpos =>
    have hden : (-exponent).toNat = 0 := by omega
    rw [hden, Nat.pow_zero]
    rfl
  · next hneg =>
    have hnum : exponent.toNat = 0 := by omega
    rw [hnum, Nat.pow_zero, Nat.mul_one]
    rfl

/-- Decimals of one value are read as one number. -/
theorem ofDecimal?_congr {a b : Decimal} (h : a.value = b.value) :
    ofDecimal? negative a.digits a.exponent = ofDecimal? negative b.digits b.exponent := by
  have hten (n : Nat) : 0 < 10 ^ n := Nat.pow_pos (by decide)
  rw [Decimal.value_eq_div, Decimal.value_eq_div,
    div_eq_div_iff (Nat.cast_ne_zero.2 (hten _).ne') (Nat.cast_ne_zero.2 (hten _).ne'), ← Nat.cast_mul,
    ← Nat.cast_mul, Nat.cast_inj] at h
  rw [ofDecimal?_eq_nearest?, ofDecimal?_eq_nearest?, nearest?_congr (hten _) (hten _) h]

theorem ofDecimal?_of_withDigits? {x : Binary64} {count : Nat} {d : Decimal} (h : x.withDigits? count = some d) :
    ofDecimal? x.negative d.digits d.exponent = some x := by
  have hback {candidate : Decimal} (hreads : x.readsBack candidate = true) (hd : some candidate = some d) :
      ofDecimal? x.negative d.digits d.exponent = some x := by
    cases hd
    simpa [readsBack] using hreads
  unfold withDigits? at h
  extract_lets at h
  split at h
  · next hreads => exact hback hreads h
  split at h
  · next hreads => exact hback hreads h
  split at h
  · next hreads => exact hback hreads h
  · cases h

/-- A power of two in the denominator is cleared by a power of five over one of ten. -/
theorem ofDecimal?_exact (negative : Bool) (units places : Nat) :
    ofDecimal? negative (units * Nat.pow 5 places) (-(places : Int)) = nearest? negative units (2 ^ places) := by
  have hden : (-(-(places : Int))).toNat = places := by omega
  have hnum : (-(places : Int)).toNat = 0 := by omega
  rw [ofDecimal?_eq_nearest?, hden, hnum]
  refine nearest?_congr (by positivity) (by positivity) ?_
  calc units * 5 ^ places * 10 ^ 0 * 2 ^ places = units * (5 ^ places * 2 ^ places) := by
        rw [Nat.pow_zero, Nat.mul_one, Nat.mul_assoc]
    _ = units * 10 ^ places := by rw [← Nat.mul_pow]

theorem exactDecimal_eq (x : Binary64) : ∃ places : Nat,
    x.exactDecimal = ⟨x.units * Nat.pow 5 places, -(places : Int)⟩ ∧ unitsInOne = 2 ^ places := by
  have hexponent : (-1074 : Int) = -((1074 : Nat) : Int) := rfl
  unfold exactDecimal unitsInOne
  rw [hexponent]
  generalize 1074 = places
  exact ⟨places, rfl, Nat.one_shiftLeft places⟩

/-- The shortest decimal of a number is read as the number. -/
theorem ofDecimal?_shortest (x : Binary64) :
    ofDecimal? x.negative x.shortest.digits x.shortest.exponent = some x := by
  rw [shortest]
  cases hx : x.isZero with
  | true =>
    obtain ⟨negative, magnitude, hlt⟩ := x
    obtain rfl : magnitude = 0 := by simpa [isZero] using hx
    rfl
  | false =>
    rw [if_neg (by simp)]
    cases hfound : (List.range 17).findSome? fun i => x.withDigits? (i + 1) with
    | some d =>
      obtain ⟨i, -, hd⟩ := List.exists_of_findSome?_eq_some hfound
      exact ofDecimal?_of_withDigits? hd
    | none =>
      obtain ⟨places, hexact, hunits⟩ := x.exactDecimal_eq
      rw [Option.getD_none, hexact, ofDecimal?_exact, ← hunits, x.nearest?_units]

theorem shortest_digits_ne_zero {x : Binary64} (hx : x.isZero = false) : x.shortest.digits ≠ 0 := by
  intro hdigits
  have hread := x.ofDecimal?_shortest
  rw [hdigits, ofDecimal?, if_pos rfl] at hread
  rw [← Option.some.inj hread] at hx
  cases hx

end Binary64

end FieldRules
