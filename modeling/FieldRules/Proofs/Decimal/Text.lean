import FieldRules.Decimal.Layout
import FieldRules.Decimal.Numeral
import FieldRules.Proofs.Decimal.Nearest
import FieldRules.Proofs.Flat.Index
import Mathlib.Algebra.Order.Field.Basic

/-!
The text of a number reads back as the number, in every layout. Wherever the point is put, the text spells a decimal
of the value of the shortest one, and reading depends on the value alone.
-/

namespace FieldRules

namespace Numeral

variable {negative : Bool} {digits whole fraction rest : List Char}

theorem ofDigits_append (digits rest : List Char) :
    ofDigits 10 (digits ++ rest) = ofDigits 10 digits * 10 ^ rest.length + ofDigits 10 rest := by
  induction rest using List.reverseRecOn with
  | nil => simp [ofDigits]
  | append_singleton front c ih =>
    rw [← List.append_assoc, ofDigits_concat, ofDigits_concat, ih, List.length_append, List.length_singleton]
    ring

@[simp] theorem ofDigits_zeros (count : Nat) : ofDigits 10 (List.replicate count '0') = 0 := by
  induction count with
  | zero => rfl
  | succ count ih =>
    rw [List.replicate_succ', ofDigits_concat, ih]
    rfl

/-- A run of characters of one kind is split off as a whole from what does not go on with one. -/
theorem split_run {p : Char → Bool} {run rest : List Char} (hrun : ∀ c ∈ run, p c = true)
    (hrest : ∀ c ∈ rest.head?, p c = false) :
    (run ++ rest).takeWhile p = run ∧ (run ++ rest).dropWhile p = rest := by
  rw [List.takeWhile_append_of_pos hrun, List.dropWhile_append_of_pos hrun]
  cases rest with
  | nil => simp
  | cons c tail =>
    have hc := hrest c rfl
    simp [hc]

/-- The text is a numeral of the decimal. -/
def Spells (s : List Char) (d : Decimal) : Prop :=
  ∀ negative, decimal? negative s = some (.ofDecimal negative d.digits d.exponent)

theorem spells_whole {exponent : Int} (hne : whole ≠ []) (hwhole : ∀ c ∈ whole, c.isDigit = true)
    (hrest : ∀ c ∈ rest.head?, c.isDigit = false ∧ c ≠ '.') (hexponent : exponent? rest = some exponent) :
    Spells (whole ++ rest) ⟨ofDigits 10 whole, exponent⟩ := by
  intro negative
  obtain ⟨htake, hdrop⟩ := split_run hwhole fun c hc => (hrest c hc).1
  rw [decimal?, htake, hdrop]
  split
  next heq =>
    split at heq
    · exact absurd rfl (hrest '.' rfl).2
    · cases heq
      simp [hne, hexponent]

theorem spells_point {exponent : Int} (hne : whole ≠ []) (hwhole : ∀ c ∈ whole, c.isDigit = true)
    (hfraction : ∀ c ∈ fraction, c.isDigit = true) (hrest : ∀ c ∈ rest.head?, c.isDigit = false)
    (hexponent : exponent? rest = some exponent) :
    Spells (whole ++ '.' :: (fraction ++ rest)) ⟨ofDigits 10 (whole ++ fraction), exponent - fraction.length⟩ := by
  intro negative
  have hpoint : ∀ c ∈ ('.' :: (fraction ++ rest)).head?, c.isDigit = false := by simp
  obtain ⟨htake, hdrop⟩ := split_run hwhole hpoint
  obtain ⟨htakeFraction, hdropFraction⟩ := split_run hfraction hrest
  simp [decimal?, htake, hdrop, htakeFraction, hdropFraction, hne, hexponent]

/-- A sign stands in front of no numeral, so that a numeral is read without one. -/
theorem readDouble?_sign {body : List Char} {d : Decimal} (h : Spells body d) (negative : Bool) :
    readDouble? (String.ofList ((if negative then ['-'] else []) ++ body)) =
      some (.ofDecimal negative d.digits d.exponent) := by
  have hread : double? negative body = some (.ofDecimal negative d.digits d.exponent) := by
    rw [double?, h negative]
  cases negative with
  | true => simpa [readDouble?] using hread
  | false =>
    simp only [readDouble?, Bool.false_eq_true, if_false, List.nil_append, String.toList_ofList]
    split
    · exact absurd (h false) (by simp [decimal?])
    · exact absurd (h false) (by simp [decimal?])
    · exact hread

theorem signed?_toDigits (n : Nat) : signed? 10 (Nat.toDigits 10 n) = some (n : Int) := by
  unfold signed?
  split
  · next hdigits => exact absurd hdigits (head_toDigits_ne (by decide) n _)
  · rw [unsigned?_toDigits]
    rfl

end Numeral

namespace Decimal

open Numeral

variable {digits : List Char}

/-- Digits behind the point, or those that stand for there being none. -/
theorem spells_fraction {whole fraction : List Char} (hne : whole ≠ []) (hwhole : ∀ c ∈ whole, c.isDigit = true)
    (hfraction : ∀ c ∈ fraction, c.isDigit = true) (pointAlways : Bool) :
    ∃ d : Decimal, d.value = ofDigits 10 (whole ++ fraction) * 10 ^ (-(fraction.length : Int)) ∧
      Spells (whole ++ if fraction.isEmpty then (if pointAlways then ['.', '0'] else []) else '.' :: fraction) d := by
  by_cases hempty : fraction = []
  · subst hempty
    -- The zero behind a point that is always shown adds a digit and takes it back by the exponent.
    cases pointAlways with
    | false =>
      have hspells : Spells (whole ++ []) ⟨ofDigits 10 whole, 0⟩ := spells_whole hne hwhole (by simp) rfl
      exact ⟨_, by simp [value], hspells⟩
    | true =>
      have hspells : Spells (whole ++ '.' :: (['0'] ++ [])) ⟨ofDigits 10 (whole ++ ['0']), 0 - ((1 : Nat) : Int)⟩ :=
        spells_point hne hwhole (by simp) (by simp) rfl
      have hzero : ofDigits 10 ['0'] = 0 := rfl
      exact ⟨_, by simp [value, ofDigits_append, hzero], hspells⟩
  · have hspells : Spells (whole ++ '.' :: (fraction ++ [])) ⟨ofDigits 10 (whole ++ fraction), 0 - fraction.length⟩ :=
      spells_point hne hwhole hfraction (by simp) rfl
    refine ⟨_, ?_, by simpa [hempty] using hspells⟩
    simp [value]

/-- Digits with the point behind some of them stand for their number, scaled by what is behind the point. -/
theorem spells_positional (hdigits : ∀ c ∈ digits, c.isDigit = true) (whole : Int) (pointAlways : Bool) :
    ∃ d : Decimal, d.value = ofDigits 10 digits * 10 ^ (whole - digits.length) ∧
      Spells (positional digits whole pointAlways) d := by
  have hzeros (count : Nat) : ∀ c ∈ List.replicate count '0', c.isDigit = true := by
    intro c hc
    rw [List.eq_of_mem_replicate hc]
    rfl
  rw [positional]
  split
  · next hle =>
    have hfraction : ∀ c ∈ List.replicate (-whole).toNat '0' ++ digits, c.isDigit = true := fun c hc =>
      (List.mem_append.1 hc).elim (hzeros _ c) (hdigits c)
    obtain ⟨d, hvalue, hspells⟩ := spells_fraction (List.cons_ne_nil '0' []) (by simp) hfraction pointAlways
    refine ⟨d, ?_, hspells⟩
    have hscale : -(((List.replicate (-whole).toNat '0' ++ digits).length : Nat) : Int) = whole - digits.length := by
      simp only [List.length_append, List.length_replicate]
      omega
    have hnumber : ofDigits 10 (['0'] ++ (List.replicate (-whole).toNat '0' ++ digits)) = ofDigits 10 digits := by
      rw [← List.append_assoc, ← List.replicate_one, List.replicate_append_replicate, ofDigits_append, ofDigits_zeros,
        Nat.zero_mul, Nat.zero_add]
    rw [hvalue, hscale, hnumber]
  · next hpos =>
    obtain ⟨count, hcount⟩ : ∃ count : Nat, whole = count := ⟨whole.toNat, by omega⟩
    subst hcount
    rw [Int.toNat_natCast]
    generalize hpadded : digits ++ List.replicate (count - digits.length) '0' = padded
    have hpaddedDigits : ∀ c ∈ padded, c.isDigit = true := by
      rw [← hpadded]
      exact fun c hc => (List.mem_append.1 hc).elim (hdigits c) (hzeros _ c)
    have hlength : padded.length = digits.length + (count - digits.length) := by simp [← hpadded]
    have hne : padded.take count ≠ [] := by
      rw [← List.length_pos_iff, List.length_take]
      omega
    obtain ⟨d, hvalue, hspells⟩ := spells_fraction hne (fun c hc => hpaddedDigits c (List.mem_of_mem_take hc))
      (fun c hc => hpaddedDigits c (List.mem_of_mem_drop hc)) pointAlways
    refine ⟨d, ?_, hspells⟩
    have hnumber : ofDigits 10 padded = ofDigits 10 digits * 10 ^ (count - digits.length) := by
      rw [← hpadded, ofDigits_append, ofDigits_zeros, List.length_replicate, Nat.add_zero]
    have hscale : ((count - digits.length : Nat) : Int) + -((padded.drop count).length : Int) =
        count - digits.length := by
      rw [List.length_drop, hlength]
      omega
    rw [hvalue, List.take_append_drop, hnumber, Nat.cast_mul, Nat.cast_pow, Nat.cast_ofNat, mul_assoc, ← zpow_natCast,
      ← zpow_add₀ (by norm_num), hscale]

/-- The exponent is written as it is read. -/
theorem exponent?_scientific (leading : Int) (plusSign : Bool) :
    exponent? ('e' :: (if leading < 0 then ['-'] else if plusSign then ['+'] else []) ++
      Nat.toDigits 10 leading.natAbs) = some leading := by
  have hnatural := natural?_toDigits leading.natAbs
  by_cases hneg : leading < 0
  · have hnat : -(leading.natAbs : Int) = leading := by omega
    simpa [exponent?, signed?, hneg, hnatural] using hnat
  · have hnat : (leading.natAbs : Int) = leading := by omega
    cases plusSign with
    | true => simp [exponent?, signed?, unsigned?, hneg, hnatural, hnat]
    | false => simp [exponent?, hneg, signed?_toDigits, hnat]

/-- Scientific notation scales digits, the first of them before the point, by the exponent that it names. -/
theorem spells_scientific (hne : digits ≠ []) (hdigits : ∀ c ∈ digits, c.isDigit = true) (leading : Int)
    (plusSign : Bool) :
    ∃ d : Decimal, d.value = ofDigits 10 digits * 10 ^ (leading + 1 - digits.length) ∧
      Spells (scientific digits leading plusSign) d := by
  have hexponent := exponent?_scientific leading plusSign
  obtain ⟨first, fraction, rfl⟩ := List.exists_cons_of_ne_nil hne
  have hfirst : ∀ c ∈ [first], c.isDigit = true := by
    intro c hc
    rw [List.mem_singleton.1 hc]
    exact hdigits first (by simp)
  by_cases hempty : fraction = []
  · subst hempty
    have hspells : Spells ([first] ++ _) ⟨ofDigits 10 [first], leading⟩ :=
      spells_whole (by simp) hfirst (by simp) hexponent
    refine ⟨_, ?_, by simpa [scientific] using hspells⟩
    simp [value]
  · have hspells : Spells ([first] ++ '.' :: (fraction ++ _)) ⟨ofDigits 10 ([first] ++ fraction), _⟩ :=
      spells_point (by simp) hfirst (fun c hc => hdigits c (by simp [hc])) (by simp) hexponent
    have hscale : leading - (fraction.length : Int) = leading + 1 - ((first :: fraction).length : Int) := by
      rw [List.length_cons]
      omega
    refine ⟨_, ?_, by simpa [scientific, hempty] using hspells⟩
    rw [value, hscale]

/-- Digits are those up to the last one that is not zero, and zeros. -/
theorem withoutTrailingZeros_append_zeros (digits : List Char) :
    withoutTrailingZeros digits ++ List.replicate (digits.length - (withoutTrailingZeros digits).length) '0' =
      digits := by
  have hzeros : digits.reverse.takeWhile (· == '0') =
      List.replicate (digits.reverse.takeWhile (· == '0')).length '0' := by
    rw [List.eq_replicate_iff]
    refine ⟨rfl, fun c hc => ?_⟩
    simpa using List.all_eq_true.1 List.all_takeWhile c hc
  have hsplit : digits.reverse.takeWhile (· == '0') ++ digits.reverse.dropWhile (· == '0') = digits.reverse :=
    List.takeWhile_append_dropWhile
  have hlength : digits.length - (withoutTrailingZeros digits).length =
      (digits.reverse.takeWhile (· == '0')).length := by
    have hsum := congrArg List.length hsplit
    rw [List.length_append, List.length_reverse] at hsum
    rw [withoutTrailingZeros, List.length_reverse]
    omega
  rw [hlength, withoutTrailingZeros, ← List.reverse_inj, List.reverse_append, List.reverse_reverse,
    List.reverse_replicate, ← hzeros, hsplit]

theorem ofDigits_withoutTrailingZeros (digits : List Char) :
    ofDigits 10 (withoutTrailingZeros digits) * 10 ^ (digits.length - (withoutTrailingZeros digits).length) =
      ofDigits 10 digits := by
  have h := congrArg (ofDigits 10) (withoutTrailingZeros_append_zeros digits)
  rwa [ofDigits_append, ofDigits_zeros, List.length_replicate, Nat.add_zero] at h

theorem mem_of_mem_withoutTrailingZeros {c : Char} (hc : c ∈ withoutTrailingZeros digits) : c ∈ digits := by
  rw [← withoutTrailingZeros_append_zeros digits]
  exact List.mem_append_left _ hc

/-- The digits that are written stand for the value, scaled from the place of the leading one. -/
theorem value_written (d : Decimal) {written digits : List Char} (hwritten : Nat.toDigits 10 d.digits = written)
    (hdigits : withoutTrailingZeros written = digits) :
    (ofDigits 10 digits : ℚ) * 10 ^ ((written.length : Int) - 1 + d.exponent + 1 - digits.length) = d.value := by
  have hlength := congrArg List.length (withoutTrailingZeros_append_zeros written)
  have hnumber := ofDigits_withoutTrailingZeros written
  rw [← hwritten, Path.ofDigits_toDigits, hwritten, hdigits] at hnumber
  rw [hdigits, List.length_append, List.length_replicate] at hlength
  have hscale : (written.length : Int) - 1 + d.exponent + 1 - digits.length =
      ((written.length - digits.length : Nat) : Int) + d.exponent := by omega
  calc (ofDigits 10 digits : ℚ) * 10 ^ ((written.length : Int) - 1 + d.exponent + 1 - digits.length)
      = ofDigits 10 digits * 10 ^ (written.length - digits.length) * 10 ^ d.exponent := by
        rw [hscale, zpow_add₀ (by norm_num), zpow_natCast, mul_assoc]
    _ = d.value := by
        rw [value, ← hnumber]
        push_cast
        rfl

/-- The text of a number is made of digits that stand for the value of its shortest decimal. -/
theorem Layout.exists_digits (layout : Layout) (x : Binary64) : ∃ (digits : List Char) (leading : Int),
    digits ≠ [] ∧ (∀ c ∈ digits, c.isDigit = true) ∧
    (ofDigits 10 digits : ℚ) * 10 ^ (leading + 1 - (digits.length : Int)) = x.shortest.value ∧
    ((layout.write x).toList =
        (if x.negative then ['-'] else []) ++ positional digits (leading + 1) layout.pointAlways ∨
      (layout.write x).toList = (if x.negative then ['-'] else []) ++ scientific digits leading layout.plusSign) := by
  rw [write]
  cases hx : x.isZero with
  | true =>
    refine ⟨['0'], 0, by simp, by simp, ?_, .inl (String.toList_ofList ..)⟩
    rw [Binary64.shortest, hx]
    simp [value, ofDigits, digitValue]
  | false =>
    have hvalue := value_written x.shortest rfl rfl
    have hdigits : ∀ c ∈ withoutTrailingZeros (Nat.toDigits 10 x.shortest.digits), c.isDigit = true := fun c hc =>
      Nat.isDigit_of_mem_toDigits (by decide) (by decide) (mem_of_mem_withoutTrailingZeros hc)
    have hne : withoutTrailingZeros (Nat.toDigits 10 x.shortest.digits) ≠ [] := by
      intro hnil
      have hzero : x.shortest.digits = 0 := by
        rw [← Path.ofDigits_toDigits x.shortest.digits, ← ofDigits_withoutTrailingZeros, hnil]
        simp [ofDigits]
      exact Binary64.shortest_digits_ne_zero hx hzero
    refine ⟨_, _, hne, hdigits, hvalue, ?_⟩
    rw [if_neg (by simp)]
    simp only [String.toList_ofList]
    cases layout.isPositional ((Nat.toDigits 10 x.shortest.digits).length - 1 + x.shortest.exponent) with
    | true => exact .inl rfl
    | false => exact .inr rfl

/-- The text of a number reads back as the number. -/
theorem Layout.readDouble?_write (layout : Layout) (x : Binary64) :
    readDouble? (layout.write x) = some (.finite x) := by
  have hread {body : List Char} {d : Decimal} (hvalue : d.value = x.shortest.value) (hspells : Spells body d)
      (hwrite : (layout.write x).toList = (if x.negative then ['-'] else []) ++ body) :
      readDouble? (layout.write x) = some (.finite x) := by
    rw [← @String.ofList_toList (layout.write x), hwrite, readDouble?_sign hspells, Double.ofDecimal,
      Binary64.ofDecimal?_congr hvalue, x.ofDecimal?_shortest]
  obtain ⟨digits, leading, hne, hdigits, hvalue, hwrite | hwrite⟩ := layout.exists_digits x
  · obtain ⟨d, hd, hspells⟩ := spells_positional hdigits (leading + 1) layout.pointAlways
    exact hread (hd.trans hvalue) hspells hwrite
  · obtain ⟨d, hd, hspells⟩ := spells_scientific hne hdigits leading layout.plusSign
    exact hread (hd.trans hvalue) hspells hwrite

theorem Layout.write_inj {layout : Layout} {x y : Binary64} : layout.write x = layout.write y ↔ x = y := by
  refine ⟨fun h => ?_, fun h => h ▸ rfl⟩
  have hread := layout.readDouble?_write x
  rw [h, layout.readDouble?_write y] at hread
  cases hread
  rfl

theorem mem_positional {c : Char} {whole : Int} {pointAlways : Bool} (hdigits : ∀ c ∈ digits, c.isDigit = true)
    (hc : c ∈ positional digits whole pointAlways) : c.isDigit = true ∨ c = '.' := by
  have hfraction {fraction : List Char} (hfraction : ∀ c ∈ fraction, c.isDigit = true)
      (hc : c ∈ if fraction.isEmpty then (if pointAlways then ['.', '0'] else []) else '.' :: fraction) :
      c.isDigit = true ∨ c = '.' := by
    split_ifs at hc
    · rcases List.mem_pair.1 hc with rfl | rfl <;> simp
    · cases hc
    · exact (List.mem_cons.1 hc).symm.imp_left (hfraction c)
  have hpadded {zeros : Nat} {c : Char} (hc : c ∈ digits ∨ c ∈ List.replicate zeros '0') : c.isDigit = true := by
    rcases hc with hc | hc
    · exact hdigits c hc
    · rw [List.eq_of_mem_replicate hc]
      rfl
  rw [positional] at hc
  split at hc
  · rcases List.mem_cons.1 hc with rfl | hc
    · exact .inl rfl
    · exact hfraction (fun c hc => hpadded (List.mem_append.1 hc).symm) hc
  · rcases List.mem_append.1 hc with hc | hc
    · exact .inl (hpadded (List.mem_append.1 (List.mem_of_mem_take hc)))
    · exact hfraction (fun c hc => hpadded (List.mem_append.1 (List.mem_of_mem_drop hc))) hc

theorem mem_scientific {c : Char} {leading : Int} {plusSign : Bool} (hdigits : ∀ c ∈ digits, c.isDigit = true)
    (hc : c ∈ scientific digits leading plusSign) : c.isDigit = true ∨ c ∈ ['.', 'e', '+', '-'] := by
  simp only [scientific, List.append_assoc, List.cons_append] at hc
  rcases List.mem_append.1 hc with hc | hc
  · match digits with
    | [] => cases hc
    | [first] => exact .inl (hdigits c hc)
    | first :: second :: fraction =>
      obtain hc | rfl | hc : c = first ∨ c = '.' ∨ c ∈ second :: fraction := by simpa using hc
      · exact .inl (hdigits c (by simp [hc]))
      · exact .inr (by simp)
      · exact .inl (hdigits c (List.mem_cons_of_mem _ hc))
  · rcases List.mem_cons.1 hc with rfl | hc
    · exact .inr (by simp)
    rcases List.mem_append.1 hc with hc | hc
    · split_ifs at hc
      · exact .inr (by simp [List.mem_singleton.1 hc])
      · exact .inr (by simp [List.mem_singleton.1 hc])
      · cases hc
    · exact .inl (Nat.isDigit_of_mem_toDigits (by decide) (by decide) hc)

theorem Layout.mem_write {layout : Layout} {x : Binary64} {c : Char} (hc : c ∈ (layout.write x).toList) :
    c.isDigit = true ∨ c ∈ ['.', 'e', '+', '-'] := by
  have hsign {body : List Char} (hc : c ∈ (if x.negative then ['-'] else []) ++ body) : c = '-' ∨ c ∈ body := by
    rcases List.mem_append.1 hc with hc | hc
    · split_ifs at hc
      · exact .inl (List.mem_singleton.1 hc)
      · cases hc
    · exact .inr hc
  obtain ⟨digits, leading, -, hdigits, -, hwrite | hwrite⟩ := layout.exists_digits x
  · rw [hwrite] at hc
    rcases hsign hc with rfl | hc
    · exact .inr (by simp)
    · exact (mem_positional hdigits hc).imp_right fun hpoint => by simp [hpoint]
  · rw [hwrite] at hc
    rcases hsign hc with rfl | hc
    · exact .inr (by simp)
    · exact mem_scientific hdigits hc

theorem point_mem_positional (digits : List Char) (whole : Int) : '.' ∈ positional digits whole true := by
  have hfraction (fraction : List Char) :
      '.' ∈ if fraction.isEmpty then (if true then ['.', '0'] else []) else '.' :: fraction := by
    split <;> simp
  rw [positional]
  split
  · exact List.mem_cons_of_mem _ (hfraction _)
  · exact List.mem_append_right _ (hfraction _)

/-- Where every number shows a point, a text without an exponent has one. -/
theorem Layout.exists_mem_write {layout : Layout} (hpoint : layout.pointAlways = true) (x : Binary64) :
    ∃ c ∈ (layout.write x).toList, c = '.' ∨ c = 'e' := by
  obtain ⟨digits, leading, -, -, -, hwrite | hwrite⟩ := layout.exists_digits x
  · refine ⟨'.', ?_, .inl rfl⟩
    rw [hwrite, hpoint]
    exact List.mem_append_right _ (point_mem_positional digits _)
  · refine ⟨'e', ?_, .inr rfl⟩
    rw [hwrite]
    simp [scientific]

end Decimal

end FieldRules
