import FieldRules.Json.Print
import FieldRules.Json.Token
import FieldRules.Proofs.Decimal.Text
import FieldRules.Proofs.Json.Place

/-!
The compact text of a value determines the value. The first character tells the kind of value, a quoted text ends by
itself, and a number ends before the mark behind it. So a text falls into its parts in one way only.
-/

namespace FieldRules.Json

namespace Number

variable {n m : Number} {c : Char}

/-- A character of the text of a number. -/
def isTextChar (c : Char) : Bool := c.isDigit || ['.', 'e', '+', '-'].contains c

/-- The text of a whole number: its digits, behind a minus sign if it is negative. -/
theorem toList_toString_int (value : Int) : (toString value).toList =
    if value < 0 then '-' :: Nat.toDigits 10 value.natAbs else Nat.toDigits 10 value.natAbs := by
  cases value with
  | ofNat n => simp [toString, Int.repr, Nat.repr]
  | negSucc n => simp [toString, Int.repr, Nat.repr, Int.negSucc_lt_zero]

theorem signed?_toString (value : Int) : Numeral.signed? 10 (toString value).toList = some value := by
  rw [toList_toString_int]
  split
  · next hneg =>
    have habs : -(value.natAbs : Int) = value := by omega
    simpa [Numeral.signed?, Numeral.natural?_toDigits] using habs
  · next hpos =>
    rw [Numeral.signed?_toDigits]
    congr 1
    omega

theorem mem_toString_int {value : Int} (hc : c ∈ (toString value).toList) : c.isDigit = true ∨ c = '-' := by
  have hdigit (h : c ∈ Nat.toDigits 10 value.natAbs) : c.isDigit = true :=
    Nat.isDigit_of_mem_toDigits (by decide) (by decide) h
  rw [toList_toString_int] at hc
  split at hc
  · exact (List.mem_cons.1 hc).symm.imp_left hdigit
  · exact .inl (hdigit hc)

theorem isTextChar_of_mem_text (hc : c ∈ n.text.toList) : isTextChar c = true := by
  cases n with
  | whole value inRange =>
    rcases mem_toString_int hc with hdigit | rfl
    · simp [isTextChar, hdigit]
    · rfl
  | real value =>
    have h := Decimal.Layout.mem_write hc
    simpa [isTextChar] using h

theorem toList_text_ne_nil (n : Number) : n.text.toList ≠ [] := by
  cases n with
  | whole value inRange =>
    intro h
    have hread := signed?_toString value
    rw [show (toString value).toList = [] from h] at hread
    cases hread
  | real x =>
    have hpoint : Decimal.Layout.json.pointAlways = true := rfl
    obtain ⟨c, hc, -⟩ := Decimal.Layout.exists_mem_write hpoint x
    exact List.ne_nil_of_mem hc

/-- A real number shows a point or an exponent, and a whole number neither. -/
theorem text_whole_ne_text_real {value : Int} {x : Binary64}
    (inRange : -0x8000000000000000 ≤ value ∧ value < 0x10000000000000000) :
    (whole value inRange).text ≠ (real x).text := by
  intro h
  have hpoint : Decimal.Layout.json.pointAlways = true := rfl
  obtain ⟨c, hc, hmark⟩ := Decimal.Layout.exists_mem_write hpoint x
  have hwhole : c ∈ (whole value inRange).text.toList := by
    rw [h]
    exact hc
  rcases hmark with rfl | rfl <;> rcases mem_toString_int hwhole with hdigit | hminus <;> contradiction

theorem text_inj : n.text = m.text ↔ n = m := by
  refine ⟨fun h => ?_, fun h => h ▸ rfl⟩
  match n, m with
  | whole value _, whole other _ =>
    have hread := signed?_toString value
    have htext : toString value = toString other := h
    rw [htext, signed?_toString] at hread
    cases hread
    rfl
  | real x, real y => rw [Decimal.Layout.write_inj.1 h]
  | whole _ inRange, real _ => exact absurd h (text_whole_ne_text_real inRange)
  | real _, whole _ inRange => exact absurd h.symm (text_whole_ne_text_real inRange)

end Number

section Quoted

open Token

theorem hexQuad?_hexPair : ∀ n < 32,
    hexQuad? '0' '0' (Nat.digitChar (n / 16)) (Nat.digitChar (n % 16)) = some n := by
  decide

/-- The escape of a control character is read back, also in front of another one, where a pair of surrogates might
be meant. -/
theorem stringBody?_control {c : Char} (hc : c.toNat < 32) (rest : List Char) :
    stringBody? ('\\' :: 'u' :: '0' :: '0' :: (hexPair c.toNat ++ rest)) =
      (stringBody? rest).map fun read => (c :: read.1, read.2) := by
  have hquad := hexQuad?_hexPair c.toNat hc
  have hlow : ¬ 0xD800 ≤ c.toNat := by omega
  have hhigh : ¬ 0xDC00 ≤ c.toNat := by omega
  simp only [hexPair, List.cons_append, List.nil_append]
  -- Two escapes in a row are first looked at as a pair of surrogates.
  by_cases hpair : ∃ e f g h tail, rest = '\\' :: 'u' :: e :: f :: g :: h :: tail
  · obtain ⟨e, f, g, h, tail, rfl⟩ := hpair
    rw [stringBody?]
    simp [hquad, hlow, hhigh, Option.map_eq_bind]
  · rw [stringBody?]
    · simp [hquad, hlow, Option.map_eq_bind]
    · exact fun e f g h tail heq => hpair ⟨e, f, g, h, tail, heq⟩

/-- A character is read back from behind its escape. -/
theorem stringBody?_escapeChar (c : Char) (rest : List Char) :
    stringBody? (escapeChar c ++ rest) = (stringBody? rest).map fun read => (c :: read.1, read.2) := by
  rw [escapeChar]
  split_ifs with hquote hslash hbackspace hfeed hline hreturn htab hcontrol
  case neg =>
    rw [stringBody?.eq_def]
    simp [hslash, hcontrol]
  on_goal 8 => exact stringBody?_control hcontrol rest
  all_goals
    subst_vars
    simp [stringBody?, Option.map_eq_bind]

/-- A quoted text is read back up to its closing quote. -/
theorem stringBody?_flatMap_escapeChar (body rest : List Char) :
    stringBody? (body.flatMap escapeChar ++ '"' :: rest) = some (body, rest) := by
  induction body with
  | nil => simp [stringBody?]
  | cons c body ih => rw [List.flatMap_cons, List.append_assoc, stringBody?_escapeChar, ih, Option.map_some]

theorem quoted_append_inj {s t : String} {rest rest' : List Char} (h : quoted s ++ rest = quoted t ++ rest') :
    s = t ∧ rest = rest' := by
  have hread (s : String) (rest : List Char) : stringBody? ((quoted s ++ rest).tail) = some (s.toList, rest) := by
    simpa [quoted] using stringBody?_flatMap_escapeChar s.toList rest
  have hs := hread s rest
  rw [h, hread] at hs
  obtain ⟨hst, hrest⟩ := Prod.mk.inj (Option.some.inj hs)
  exact ⟨(String.toList_inj.1 hst).symm, hrest.symm⟩

end Quoted

section Compact

/-- The kind of the values whose text starts with a character. -/
def kindOfFirst? (c : Char) : Option Kind :=
  if c = 'n' then some .null
  else if c = 't' ∨ c = 'f' then some .boolean
  else if c = '"' then some .string
  else if c = '[' then some .array
  else if c = '\x7b' then some .object
  else if Number.isTextChar c then some .number
  else none

theorem kindOfFirst?_of_isTextChar {c : Char} (hc : Number.isTextChar c = true) :
    kindOfFirst? c = some .number := by
  have hne {d : Char} (hd : Number.isTextChar d = false) : c ≠ d := by
    rintro rfl
    rw [hc] at hd
    cases hd
  have hbool : ¬ (c = 't' ∨ c = 'f') := not_or.2 ⟨hne rfl, hne rfl⟩
  rw [kindOfFirst?, if_neg (hne rfl), if_neg hbool, if_neg (hne rfl), if_neg (hne rfl), if_neg (hne rfl), if_pos hc]

/-- The first character of a text tells the kind of value. -/
theorem exists_first (v : Json) : ∃ c tail, v.compactChars = c :: tail ∧ kindOfFirst? c = some v.kind := by
  cases v with
  | null => exact ⟨_, _, rfl, rfl⟩
  | bool b => cases b <;> exact ⟨_, _, rfl, rfl⟩
  | number n =>
    cases htext : n.text.toList with
    | nil => exact absurd htext n.toList_text_ne_nil
    | cons c tail =>
      have hc : Number.isTextChar c = true := Number.isTextChar_of_mem_text (by rw [htext]; simp)
      exact ⟨c, tail, htext, kindOfFirst?_of_isTextChar hc⟩
  | string s => exact ⟨_, _, rfl, rfl⟩
  | array items => exact ⟨_, _, rfl, rfl⟩
  | object members => exact ⟨_, _, rfl, rfl⟩

variable {α : Type} {text : α → List Char} {a b : Json} {rest rest' : List Char}

theorem kind_eq_of_append_eq (h : a.compactChars ++ rest = b.compactChars ++ rest') : a.kind = b.kind := by
  obtain ⟨c, tail, ha, hkind⟩ := a.exists_first
  obtain ⟨d, tail', hb, hkind'⟩ := b.exists_first
  rw [ha, hb] at h
  obtain ⟨rfl, -⟩ := List.cons.inj h
  exact Option.some.inj (hkind.symm.trans hkind')

/-- Here a number is at its end. -/
def EndsNumber (rest : List Char) : Prop := ∀ c ∈ rest.head?, Number.isTextChar c = false

/-- In front of anything that ends a number, the text is told apart from all others and from what follows. -/
def SplitsOff (text : α → List Char) (a : α) : Prop :=
  ∀ b rest rest', EndsNumber rest → EndsNumber rest' → text a ++ rest = text b ++ rest' → a = b ∧ rest = rest'

/-- Texts with commas between them and a mark behind fall into parts in one way if each text splits off and none starts
with the mark. -/
theorem separated_append_inj {close : Char} (hclose : close ≠ ',') (hends : Number.isTextChar close = false)
    (hfirst : ∀ a, ∃ c tail, text a = c :: tail ∧ c ≠ close) {entries others : List α}
    (hsplits : ∀ a ∈ entries, SplitsOff text a)
    (h : [','].intercalate (entries.map text) ++ close :: rest =
      [','].intercalate (others.map text) ++ close :: rest') :
    entries = others ∧ rest = rest' := by
  -- Behind each text stands a comma or the closing mark. Both end a number, and they differ.
  have hcomma : Number.isTextChar ',' = false := rfl
  have hmark {mark : Char} (hmark : Number.isTextChar mark = false) (tail : List Char) : EndsNumber (mark :: tail) := by
    rintro c hc
    rwa [← Option.some.inj hc]
  induction entries generalizing others with
  | nil =>
    cases others with
    | nil => exact ⟨rfl, (List.cons.inj h).2⟩
    | cons other others =>
      obtain ⟨c, tail, hc, hne⟩ := hfirst other
      rw [List.map_cons, hc] at h
      cases others <;> exact absurd (List.cons.inj h).1.symm hne
  | cons entry entries ih =>
    cases others with
    | nil =>
      obtain ⟨c, tail, hc, hne⟩ := hfirst entry
      rw [List.map_cons, hc] at h
      cases entries <;> exact absurd (List.cons.inj h).1 hne
    | cons other others =>
      have hentry := hsplits entry (by simp)
      cases entries with
      | nil =>
        cases others with
        | nil =>
          simp only [List.map_cons, List.map_nil, List.intercalate_singleton] at h
          obtain ⟨rfl, htail⟩ := hentry _ _ _ (hmark hends _) (hmark hends _) h
          exact ⟨rfl, (List.cons.inj htail).2⟩
        | cons next others =>
          simp only [List.map_cons, List.map_nil, List.intercalate_singleton, List.intercalate_cons_cons,
            List.append_assoc, List.singleton_append] at h
          obtain ⟨-, htail⟩ := hentry _ _ _ (hmark hends _) (hmark hcomma _) h
          exact absurd (List.cons.inj htail).1 hclose
      | cons following entries =>
        cases others with
        | nil =>
          simp only [List.map_cons, List.map_nil, List.intercalate_singleton, List.intercalate_cons_cons,
            List.append_assoc, List.singleton_append] at h
          obtain ⟨-, htail⟩ := hentry _ _ _ (hmark hcomma _) (hmark hends _) h
          exact absurd (List.cons.inj htail).1.symm hclose
        | cons next others =>
          simp only [List.map_cons, List.intercalate_cons_cons, List.append_assoc, List.singleton_append] at h
          obtain ⟨rfl, htail⟩ := hentry _ _ _ (hmark hcomma _) (hmark hcomma _) h
          have hsame : [','].intercalate ((following :: entries).map text) ++ close :: rest =
              [','].intercalate ((next :: others).map text) ++ close :: rest' := (List.cons.inj htail).2
          obtain ⟨hothers, hrest⟩ := ih (fun a ha => hsplits a (List.mem_cons_of_mem _ ha)) hsame
          exact ⟨congrArg (entry :: ·) hothers, hrest⟩

theorem compactItems_eq (items : List Json) : compactItems items = [','].intercalate (items.map compactChars) := by
  induction items with
  | nil => rfl
  | cons item rest ih =>
    cases rest with
    | nil => simp [compactItems]
    | cons next rest => simp [compactItems, ih, List.intercalate_cons_cons]

/-- The text of a member. -/
def memberChars (member : String × Json) : List Char := quoted member.1 ++ ':' :: compactChars member.2

theorem compactMembers_eq (members : List (String × Json)) :
    compactMembers members = [','].intercalate (members.map memberChars) := by
  induction members with
  | nil => rfl
  | cons member rest ih =>
    cases rest with
    | nil => simp [compactMembers, memberChars]
    | cons next rest => simp [compactMembers, memberChars, ih, List.intercalate_cons_cons]

theorem splitsOff_number (n : Number) : SplitsOff compactChars (.number n) := by
  intro b rest rest' hrest hrest' h
  have hkind := kind_eq_of_append_eq h
  cases b with
  | number m =>
    have hn := Numeral.split_run (fun _ => Number.isTextChar_of_mem_text (n := n)) hrest
    have hm := Numeral.split_run (fun _ => Number.isTextChar_of_mem_text (n := m)) hrest'
    have hsame : n.text.toList ++ rest = m.text.toList ++ rest' := h
    rw [hsame] at hn
    have htext : n.text.toList = m.text.toList := hn.1.symm.trans hm.1
    exact ⟨congrArg Json.number (Number.text_inj.1 (String.toList_inj.1 htext)), hn.2.symm.trans hm.2⟩
  | _ => cases hkind

theorem splitsOff_string (s : String) : SplitsOff compactChars (.string s) := by
  intro b rest rest' _ _ h
  have hkind := kind_eq_of_append_eq h
  cases b with
  | string t =>
    obtain ⟨rfl, hrest⟩ := quoted_append_inj h
    exact ⟨rfl, hrest⟩
  | _ => cases hkind

theorem splitsOff_array {items : List Json} (hitems : ∀ item ∈ items, SplitsOff compactChars item) :
    SplitsOff compactChars (.array items) := by
  intro b rest rest' _ _ h
  have hkind := kind_eq_of_append_eq h
  cases b with
  | array others =>
    have hfirst (v : Json) : ∃ c tail, v.compactChars = c :: tail ∧ c ≠ ']' := by
      obtain ⟨c, tail, hv, hc⟩ := v.exists_first
      refine ⟨c, tail, hv, ?_⟩
      rintro rfl
      cases hc
    simp only [compactChars, compactItems_eq, List.cons_append, List.append_assoc, List.nil_append, List.cons.injEq,
      true_and] at h
    obtain ⟨rfl, hrest⟩ := separated_append_inj (by decide) rfl hfirst hitems h
    exact ⟨rfl, hrest⟩
  | _ => cases hkind

theorem splitsOff_memberChars {member : String × Json} (hvalue : SplitsOff compactChars member.2) :
    SplitsOff memberChars member := by
  intro other rest rest' hrest hrest' h
  simp only [memberChars, List.append_assoc, List.cons_append] at h
  obtain ⟨hkey, htail⟩ := quoted_append_inj h
  obtain ⟨hother, hends⟩ := hvalue _ _ _ hrest hrest' (List.cons.inj htail).2
  exact ⟨Prod.ext hkey hother, hends⟩

theorem splitsOff_object {members : List (String × Json)}
    (hmembers : ∀ member ∈ members, SplitsOff compactChars member.2) : SplitsOff compactChars (.object members) := by
  intro b rest rest' _ _ h
  have hkind := kind_eq_of_append_eq h
  cases b with
  | object others =>
    have hfirst (member : String × Json) : ∃ c tail, memberChars member = c :: tail ∧ c ≠ '\x7d' :=
      ⟨_, _, rfl, by decide⟩
    simp only [compactChars, compactMembers_eq, List.cons_append, List.append_assoc, List.nil_append, List.cons.injEq,
      true_and] at h
    obtain ⟨rfl, hrest⟩ := separated_append_inj (by decide) rfl hfirst
      (fun member hmember => splitsOff_memberChars (hmembers member hmember)) h
    exact ⟨rfl, hrest⟩
  | _ => cases hkind

/-- The text of every value splits off. -/
theorem splitsOff_compactChars (v : Json) : SplitsOff compactChars v := by
  induction v using places_induction with
  | hterminal v hv =>
    cases v with
    | null =>
      intro b rest rest' _ _ h
      have hkind := kind_eq_of_append_eq h
      cases b with
      | null => exact ⟨rfl, List.append_cancel_left h⟩
      | _ => cases hkind
    | bool x =>
      intro b rest rest' _ _ h
      have hkind := kind_eq_of_append_eq h
      cases b with
      | bool y => cases x <;> cases y <;> simp_all [compactChars]
      | _ => cases hkind
    | number n => exact splitsOff_number n
    | string s => exact splitsOff_string s
    | array items =>
      obtain rfl : items = [] := by simpa [isTerminal] using hv
      exact splitsOff_array (by simp)
    | object members =>
      obtain rfl : members = [] := by simpa [isTerminal] using hv
      exact splitsOff_object (by simp)
  | harray items _ hitems => exact splitsOff_array hitems
  | hobject members _ hmembers => exact splitsOff_object hmembers

/-- Values with one compact text are equal, down to the order of members and the sign of zero. -/
theorem compact_inj {a b : Json} : a.compact = b.compact ↔ a = b := by
  refine ⟨fun h => ?_, fun h => h ▸ rfl⟩
  have hchars : a.compactChars ++ [] = b.compactChars ++ [] := by
    rw [String.ofList_injective h]
  exact (splitsOff_compactChars a b [] [] (by simp [EndsNumber]) (by simp [EndsNumber]) hchars).1

/-- The two zeros are one value, but their texts differ. -/
example :
    let zero (negative : Bool) : Json := .number (.real (.zero negative))
    (zero true).sameValue (zero false) = true ∧ (zero true).compact ≠ (zero false).compact := by
  decide

end Compact

end FieldRules.Json
