import FieldRules.Proofs.Report.Render

/-!
What a template makes of a record. A template can be read in one way only as placeholders and characters that stand
for themselves, since no placeholder's name begins another's. No record has a part in this reading, so that what is
put into a place is never read for placeholders.
-/

namespace FieldRules

namespace Template

/-- How a part stands in a template. -/
def Part.source : Part → List Char
  | .literal c => [c]
  | .place placeholder => '%' :: placeholder.name.toList

/-- A placeholder stands at the front of a text. -/
def OpensPlace (s : List Char) : Prop := ∃ placeholder, (Part.place placeholder).source <+: s

/-- The parts make up a text, and each placeholder in it is read as one: no character that stands for itself opens a
placeholder. -/
structure Factors (s : List Char) (parts : List Part) : Prop where
  source : parts.flatMap Part.source = s
  literal : ∀ before c after, parts = before ++ .literal c :: after →
    ¬ OpensPlace (c :: after.flatMap Part.source)

/-- The reading of a text from the left. What is read of the text goes by what is at its front alone. -/
inductive Scan : List Char → List Part → Prop
  | nil : Scan [] []
  | place {rest : List Char} {parts : List Part} (placeholder : Placeholder) (hrest : Scan rest parts) :
      Scan ((Part.place placeholder).source ++ rest) (.place placeholder :: parts)
  | literal {c : Char} {rest : List Char} {parts : List Part} (hplain : ¬ OpensPlace (c :: rest))
      (hrest : Scan rest parts) : Scan (c :: rest) (.literal c :: parts)

section Reading

variable {s : List Char} {parts : List Part} {placeholder : Placeholder}

theorem Placeholder.eq_of_isPrefix {p q : Placeholder} (h : p.name.toList <+: q.name.toList) : p = q := by
  revert h
  cases p <;> cases q <;> decide

theorem Placeholder.isPrefix_of_atStart? (h : atStart? s = some placeholder) : placeholder.name.toList <+: s := by
  rw [atStart?] at h
  have hname := List.find?_some h
  exact List.isPrefixOf_iff_prefix.1 hname

/-- At most one placeholder has its name at the front of a text. -/
theorem Placeholder.atStart?_eq_some_iff : atStart? s = some placeholder ↔ placeholder.name.toList <+: s := by
  refine ⟨isPrefix_of_atStart?, fun h => ?_⟩
  have hall : placeholder ∈ all := by cases placeholder <;> decide
  obtain ⟨first, hfirst⟩ : ∃ first, atStart? s = some first :=
    Option.isSome_iff_exists.1 (List.find?_isSome.2 ⟨placeholder, hall, List.isPrefixOf_iff_prefix.2 h⟩)
  rcases List.prefix_or_prefix_of_prefix (isPrefix_of_atStart? hfirst) h with hprefix | hprefix
  · rw [hfirst, eq_of_isPrefix hprefix]
  · rw [hfirst, ← eq_of_isPrefix hprefix]

theorem opensPlace_cons_iff {c : Char} {rest : List Char} :
    OpensPlace (c :: rest) ↔ c = '%' ∧ ∃ placeholder : Placeholder, placeholder.name.toList <+: rest := by
  simp [OpensPlace, Part.source, eq_comm]

/-- The characters that belong to a placeholder are passed over. -/
theorem partsFrom_append (skipped rest : List Char) :
    partsFrom skipped.length (skipped ++ rest) = partsFrom 0 rest := by
  induction skipped with
  | nil => rfl
  | cons c skipped ih => exact ih

theorem partsFrom_source_append (placeholder : Placeholder) (rest : List Char) :
    partsFrom 0 ((Part.place placeholder).source ++ rest) = .place placeholder :: partsFrom 0 rest := by
  have hstart : Placeholder.atStart? (placeholder.name.toList ++ rest) = some placeholder :=
    Placeholder.atStart?_eq_some_iff.2 (List.prefix_append _ _)
  rw [Part.source, List.cons_append, partsFrom, if_pos rfl, hstart]
  exact congrArg _ (partsFrom_append _ _)

theorem partsFrom_cons_of_not_opensPlace {c : Char} {rest : List Char} (h : ¬ OpensPlace (c :: rest)) :
    partsFrom 0 (c :: rest) = .literal c :: partsFrom 0 rest := by
  have hnone : (if c = '%' then Placeholder.atStart? rest else none) = none := by
    rw [opensPlace_cons_iff] at h
    split
    · next hpercent =>
      exact Option.eq_none_iff_forall_ne_some.2 fun p hp => h ⟨hpercent, p, Placeholder.isPrefix_of_atStart? hp⟩
    · rfl
  rw [partsFrom, hnone]

/-- The reading from the left is what the parts of a template are. -/
theorem scan_iff : Scan s parts ↔ parts = partsFrom 0 s := by
  constructor
  · intro h
    induction h with
    | nil => rfl
    | place placeholder _ ih => rw [partsFrom_source_append, ih]
    | literal hplain _ ih => rw [partsFrom_cons_of_not_opensPlace hplain, ih]
  · rintro rfl
    -- A placeholder takes several characters at once, so the induction is on the length.
    induction hlength : s.length using Nat.strongRecOn generalizing s with
    | ind n ih =>
      cases s with
      | nil => exact .nil
      | cons c rest =>
        by_cases hopens : OpensPlace (c :: rest)
        · obtain ⟨placeholder, behind, hsource⟩ := hopens
          have hshorter : behind.length < n := by
            rw [← hlength, ← hsource, List.length_append, Part.source, List.length_cons]
            omega
          rw [← hsource, partsFrom_source_append]
          exact .place placeholder (ih behind.length hshorter rfl)
        · rw [partsFrom_cons_of_not_opensPlace hopens]
          exact .literal hopens (ih rest.length (by rw [← hlength, List.length_cons]; omega) rfl)

/-- The rule for the characters holds of all parts if it holds of the first and of those behind it. -/
theorem factors_cons_iff {part : Part} :
    Factors s (part :: parts) ↔ ∃ rest, s = part.source ++ rest ∧ Factors rest parts ∧
      ∀ c, part = .literal c → ¬ OpensPlace (c :: rest) := by
  constructor
  · rintro ⟨rfl, hliteral⟩
    refine ⟨_, rfl, ⟨rfl, fun before c after h => ?_⟩, ?_⟩
    · exact hliteral (part :: before) c after (by rw [h]; rfl)
    · rintro c rfl
      exact hliteral [] c parts rfl
  · rintro ⟨rest, rfl, ⟨rfl, hliteral⟩, hfirst⟩
    refine ⟨rfl, fun before c after h => ?_⟩
    rcases List.cons_eq_append_iff.1 h with ⟨-, hhere⟩ | ⟨between, -, hbehind⟩
    · obtain ⟨rfl, rfl⟩ := List.cons.inj hhere
      exact hfirst c rfl
    · exact hliteral between c after hbehind

/-- To read a text part by part is to divide all of it. -/
theorem factors_iff_scan : Factors s parts ↔ Scan s parts := by
  constructor
  · intro h
    induction parts generalizing s with
    | nil =>
      obtain rfl : [] = s := h.source
      exact .nil
    | cons part parts ih =>
      obtain ⟨rest, rfl, hrest, hliteral⟩ := factors_cons_iff.1 h
      cases part with
      | literal c => exact .literal (hliteral c rfl) (ih hrest)
      | place placeholder => exact .place placeholder (ih hrest)
  · intro h
    induction h with
    | nil => exact ⟨rfl, fun before c after h => by simp at h⟩
    | place placeholder _ ih => exact factors_cons_iff.2 ⟨_, rfl, ih, by simp⟩
    | literal hplain _ ih => exact factors_cons_iff.2 ⟨_, rfl, ih, by rintro _ ⟨⟩; exact hplain⟩

end Reading

/-- The text in which a value is shown: strings stand bare, every other value as JSON. -/
inductive Displays : Json → String → Prop
  | bare (s : String) : Displays (.string s) s
  | json {v : Json} (hkind : v.kind ≠ .string) : Displays v v.compact

/-- What stands for a part when a record is told with a message. -/
inductive Shows (r : Record) (message : String) : Part → String → Prop
  | literal (c : Char) : Shows r message (.literal c) (String.singleton c)
  | validator : Shows r message (.place .validator) r.validator
  | message : Shows r message (.place .message) message
  | target : Shows r message (.place .target) r.target
  | value {text : String} (hvalue : Displays r.value text) : Shows r message (.place .value) text
  | data {context : OrderedMap Json} (hcontext : r.context = some context) :
      Shows r message (.place .data) (Json.ofMap context).compact
  | noData (hcontext : r.context = none) : Shows r message (.place .data) "\x7b\x7d"
  | id {id : Json} {text : String} (hid : r.rowId = some id) (hdisplays : Displays id text) :
      Shows r message (.place .id) text
  | noId (hid : r.rowId = none) : Shows r message (.place .id) ""

theorem displays_iff {v : Json} {text : String} : Displays v text ↔ v.bareText = text := by
  constructor
  · rintro (s | hkind)
    · rfl
    · cases v <;> first | rfl | exact absurd rfl hkind
  · rintro rfl
    cases v with
    | string s => exact .bare s
    | _ => exact .json (by simp [Json.kind])

theorem shows_iff {r : Record} {message : String} {part : Part} {text : String} :
    Shows r message part text ↔ part.text r message = text := by
  constructor
  · rintro (_ | _ | _ | _ | hvalue | hcontext | hcontext | ⟨hid, hdisplays⟩ | hid)
    · rfl
    · rfl
    · rfl
    · rfl
    · exact displays_iff.1 hvalue
    · simp [Part.text, fill, hcontext]
    · simp [Part.text, fill, hcontext]
    · simpa [Part.text, fill, hid] using displays_iff.1 hdisplays
    · simp [Part.text, fill, hid]
  · rintro rfl
    cases part with
    | literal c => exact .literal c
    | place placeholder =>
      cases placeholder with
      | validator => exact .validator
      | message => exact .message
      | target => exact .target
      | value => exact .value (displays_iff.2 rfl)
      | data =>
        cases hcontext : r.context with
        | none => simpa [Part.text, fill, hcontext] using Shows.noData hcontext
        | some context => simpa [Part.text, fill, hcontext] using Shows.data hcontext
      | id =>
        cases hid : r.rowId with
        | none => simpa [Part.text, fill, hid] using Shows.noId hid
        | some id => simpa [Part.text, fill, hid] using Shows.id hid (displays_iff.2 rfl)

theorem forall₂_shows_iff {r : Record} {message : String} {parts : List Part} {texts : List String} :
    List.Forall₂ (Shows r message) parts texts ↔ parts.map (·.text r message) = texts := by
  rw [← List.forall₂_eq_eq_eq, List.forall₂_map_left_iff]
  exact ⟨fun h => h.imp fun _ _ => shows_iff.1, fun h => h.imp fun _ _ => shows_iff.2⟩

end Template

/-- A template has one reading, which is found from the left and in which no record has a part. A record with a message
in the locale is told by what the parts of this reading show of it, one behind the other; a record without one is not
told. -/
theorem Record.render?_spec (template : String) :
    ∃ parts, Template.Scan template.toList parts ∧
      (∀ others, Template.Factors template.toList others ↔ others = parts) ∧
      ∀ (r : Record) (locale : String),
        (∀ text, r.render? locale template = some text ↔
          ∃ message texts, r.message? locale = some message ∧
            List.Forall₂ (Template.Shows r message) parts texts ∧ text = String.join texts) ∧
        (r.render? locale template = none ↔ r.message? locale = none) := by
  refine ⟨Template.parts template, Template.scan_iff.2 rfl, fun others => ?_, fun r locale => ⟨fun text => ?_, ?_⟩⟩
  · rw [Template.factors_iff_scan, Template.scan_iff, Template.parts]
  · rw [render?_eq_some_iff]
    constructor
    · rintro ⟨hmessage⟩
      exact ⟨_, _, hmessage, Template.forall₂_shows_iff.2 rfl, rfl⟩
    · rintro ⟨message, texts, hmessage, htexts, rfl⟩
      rw [← Template.forall₂_shows_iff.1 htexts]
      exact .of_message hmessage
  · rw [render?_eq_none_iff, not_hasMessage_iff]

/-- Texts that look like placeholders stay as they are, in the template and in the record. -/
example :
    ({ target := "%message", validator := "V", value := .string "%", rowId := some .null,
       messages := .ofList [("en", "%target")] } : Record).render? "en" "%%target|%message|%val%value|%id%data|100%" =
      some "%%message|%target|%val%|null\x7b\x7d|100%" := by
  decide

end FieldRules
