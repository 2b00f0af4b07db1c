import FieldRules.Proofs.Engine.Sequence
import FieldRules.Proofs.Engine.Untouched
import FieldRules.Proofs.Text.Idempotence
import Mathlib.Logic.Function.Iterate

/-!
Data that has been transformed, transformed again. Where each value is rewritten by one of the operators on texts, the
second time changes nothing, unless a text has been capitalized that does not stay so; from the third time on nothing
changes in any case.
-/

namespace FieldRules

/-- Rewrites a text, and leaves any other value as it is. -/
def Json.mapText (rewrite : String → String) : Json → Json
  | .string s => .string (rewrite s)
  | v => v

namespace Operator

/-- What becomes of a value, which goes on as it is if the operator gives none. -/
def outcome (operator : Operator) (attributes : Attributes) (value : Json) : Except Complaint Json :=
  (operator value attributes).map (·.getD value)

/-- The operator makes something of the value that it makes the same of again. -/
def Settles (operator : Operator) (value : Json) : Prop :=
  ∀ attributes, ∃ result, operator.outcome attributes value = .ok result ∧
    operator.outcome attributes result = .ok result

/-- The operators on texts, by name. -/
def rewriters : List (String × (String → String)) :=
  [("Trim", Text.trim), ("UpperCase", Text.toUpper), ("LowerCase", Text.toLower), ("Capitalize", Text.capitalize)]

theorem get?_builtin_of_mem_rewriters : ∀ entry ∈ rewriters, builtin.get? entry.1 = some (onText entry.2) := by
  simp only [rewriters, List.forall_mem_cons]
  exact ⟨rfl, rfl, rfl, rfl, nofun⟩

theorem outcome_onText (rewrite : String → String) (attributes : Attributes) (value : Json) :
    (onText rewrite).outcome attributes value = .ok (value.mapText rewrite) := by
  cases value <;> rfl

theorem mapText_mapText_iff {rewrite : String → String} {value : Json} :
    (value.mapText rewrite).mapText rewrite = value.mapText rewrite ↔
      ∀ s, value = .string s → rewrite (rewrite s) = rewrite s := by
  cases value <;> simp [Json.mapText]

/-- Only texts can keep an operator on texts from settling a value. -/
theorem settles_onText_iff {rewrite : String → String} {value : Json} :
    (onText rewrite).Settles value ↔ ∀ s, value = .string s → rewrite (rewrite s) = rewrite s := by
  rw [← mapText_mapText_iff]
  simp [Settles, outcome_onText]

theorem rewrite_rewrite : ∀ entry ∈ rewriters, ∀ s, (entry.1 = "Capitalize" → Text.StaysCapitalized s) →
    entry.2 (entry.2 s) = entry.2 s := by
  simp only [rewriters, List.forall_mem_cons]
  refine ⟨fun s _ => Text.trim_trim s, fun s _ => ?_, fun s _ => ?_,
    fun s hs => Text.capitalize_capitalize_eq_iff.2 (hs trivial), nofun⟩
  · simp [Text.toUpper, Text.upperChars_upperChars]
  · simp [Text.toLower, Text.lowerChars_lowerChars]

/-- Whatever the operator, its second result is final. -/
theorem rewrite_rewrite_rewrite : ∀ entry ∈ rewriters, ∀ s,
    entry.2 (entry.2 (entry.2 s)) = entry.2 (entry.2 s) := by
  intro entry hentry s
  have hcapitalize : ∀ entry ∈ rewriters, entry.1 = "Capitalize" → entry.2 = Text.capitalize := by
    simp [rewriters]
  refine rewrite_rewrite entry hentry (entry.2 s) fun hname => ?_
  rw [hcapitalize entry hentry hname]
  exact Text.staysCapitalized_capitalize s

end Operator

namespace Engine.Transform

/-- All that is done at a key is done by one operator on texts. -/
def OneRewriter (engine : Transform) (key : String) : Prop :=
  ∃ entry ∈ Operator.rewriters, ∀ step ∈ stepsFor engine.rules key, step.spec.name = entry.1

/-- An operator that capitalizes goes to work at a key. -/
def Capitalizes (engine : Transform) (key : String) : Prop :=
  ∃ step ∈ stepsFor engine.rules key, step.spec.name = "Capitalize"

/-- A function that changes a value once only makes the same of it however often it goes to work. -/
theorem iterate_iterate {α : Type} {f : α → α} {x : α} (h : f (f x) = f x) (n : Nat) : f^[n] (f^[n] x) = f^[n] x := by
  have hiterate (n : Nat) : f^[n + 1] x = f x := by rw [Function.iterate_succ_apply, Function.iterate_fixed h]
  cases n with
  | zero => rfl
  | succ n => rw [← Function.iterate_add_apply, ← Nat.add_assoc, hiterate, hiterate]

theorem iterate_iterate_iterate {α : Type} {f : α → α} (h : ∀ x, f (f (f x)) = f (f x)) (n : Nat) (x : α) :
    f^[n] (f^[n] (f^[n] x)) = f^[n] (f^[n] x) := by
  cases n with
  | zero => rfl
  | succ n =>
    refine iterate_iterate ?_ (n + 1)
    rw [Function.iterate_succ_apply']
    exact h _

theorem foldlM_rewrite_onText {f : String → String} {chain : List (Step OperatorSpec Operator)}
    (hchain : ∀ step ∈ chain, step.function = Operator.onText f) (key : String) (value : Json) :
    chain.foldlM (rewrite key) value = .ok ((Json.mapText f)^[chain.length] value) := by
  induction chain generalizing value with
  | nil => rfl
  | cons step rest ih =>
    obtain ⟨hstep, hrest⟩ := List.forall_mem_cons.1 hchain
    have hrewrite : rewrite key value step = .ok (value.mapText f) := by
      rw [rewrite, hstep]
      cases value <;> rfl
    rw [List.foldlM_cons, hrewrite, List.length_cons, Function.iterate_succ_apply]
    exact ih hrest _

/-- What an engine leaves of a view is what its chains compose to at each key. -/
theorem apply_eq_of_composed {engine : Transform} {view next : FlatView} (hkeys : next.keys = view.keys)
    (h : ∀ key value, view.get? key = some value →
      ∃ result, composed engine.rules key value = .ok result ∧ next.get? key = some result) :
    (engine.apply view).result = { view := next } := by
  obtain ⟨hfinalKeys, hdone, hvalues, -⟩ := apply_spec engine view
  have hfailure := hdone.2 fun key value hvalue => (h key value hvalue).imp fun _ => And.left
  have hview : (engine.apply view).result.view = next := by
    ext1
    rw [OrderedMap.entries_eq_map_keys _ .null, next.entries_eq_map_keys .null, hfinalKeys, hkeys]
    refine List.map_congr_left fun key hkey => ?_
    obtain ⟨value, hentry⟩ := OrderedMap.mem_keys_iff.1 hkey
    have hvalue := OrderedMap.get?_eq_some_iff.2 hentry
    obtain ⟨result, hresult, hnext⟩ := h key value hvalue
    obtain ⟨other, hother, hfinal⟩ := hvalues hfailure key value hvalue
    rw [hfinal, hnext, Except.ok.inj (hresult.symm.trans hother)]
  rw [← hview, ← hfailure]

section OneRewriter

variable {schema : Schema} {settings : Settings} {engine : Transform}
  (hengine : ofSchema schema Operator.builtin settings = .ok engine) {key : String}
include hengine

/-- One operator on texts goes to work as often as it stands in the chains. -/
theorem OneRewriter.exists_composed (hone : engine.OneRewriter key) :
    ∃ entry ∈ Operator.rewriters, (∀ step ∈ stepsFor engine.rules key, step.spec.name = entry.1) ∧
      ∀ value, composed engine.rules key value =
        .ok ((Json.mapText entry.2)^[(stepsFor engine.rules key).length] value) := by
  obtain ⟨entry, hentry, hnames⟩ := hone
  refine ⟨entry, hentry, hnames, foldlM_rewrite_onText (fun step hstep => ?_) key⟩
  obtain ⟨ready, hready, hchain⟩ := List.mem_flatMap.1 hstep
  obtain ⟨-, hfunction⟩ := exists_rule_of_mem_chain hengine (List.mem_of_mem_filter hready) hchain
  rw [hnames step hstep, Operator.get?_builtin_of_mem_rewriters entry hentry] at hfunction
  exact (Option.some.inj hfunction).symm

/-- No text comes of anything else. -/
theorem OneRewriter.composed_null (hone : engine.OneRewriter key) : composed engine.rules key .null = .ok .null := by
  obtain ⟨entry, -, -, hcomposed⟩ := hone.exists_composed hengine
  rw [hcomposed, Function.iterate_fixed (f := Json.mapText entry.2) rfl]

/-- The second result at a key is final, and the first one is, unless it has been capitalized and does not stay so. -/
theorem OneRewriter.exists_results (hone : engine.OneRewriter key) (value : Json) :
    ∃ first second, composed engine.rules key value = .ok first ∧ composed engine.rules key first = .ok second ∧
      composed engine.rules key second = .ok second ∧
      ((∀ s, value = .string s → engine.Capitalizes key → Text.StaysCapitalized s) → second = first) := by
  obtain ⟨entry, hentry, hnames, hcomposed⟩ := hone.exists_composed hengine
  have hthrice (value : Json) : ((value.mapText entry.2).mapText entry.2).mapText entry.2 =
      (value.mapText entry.2).mapText entry.2 := by
    cases value <;> simp [Json.mapText, Operator.rewrite_rewrite_rewrite entry hentry]
  refine ⟨_, _, hcomposed value, hcomposed _, ?_, fun hstays => ?_⟩
  · rw [hcomposed, iterate_iterate_iterate hthrice]
  · cases hsteps : stepsFor engine.rules key with
    | nil => rfl
    | cons step rest =>
      refine iterate_iterate (Operator.mapText_mapText_iff.2 fun s hs => ?_) _
      refine Operator.rewrite_rewrite entry hentry s fun hname => hstays s hs ⟨step, ?_, ?_⟩
      · rw [hsteps]
        exact List.mem_cons_self
      · rw [hnames step (hsteps ▸ List.mem_cons_self), hname]

end OneRewriter

/-- An object is rewritten if no rule fails on its flat view and what they leave of that can be rebuilt. -/
theorem operateObject_eq_ok_iff {engine : Transform} {row w : Json} :
    (engine.operateObject row).result = .ok w ↔ row.kind = .object ∧
      (engine.apply (row.flatten engine.settings.separator)).result.failure = none ∧
      (engine.apply (row.flatten engine.settings.separator)).result.view.deflate engine.settings.separator = .ok w := by
  cases row with
  | null | bool _ | number _ | string _ | array _ => exact ⟨nofun, nofun⟩
  | object members =>
    simp only [result_operateObject, apply, Json.kind, true_and]
    cases (applyRules ((Json.object members).flatten engine.settings.separator) engine.rules).result.failure <;> simp

/-- The rows of what data is rewritten to are its own rows, each rewritten. -/
theorem exists_row_of_operate {engine : Transform} {data next : Json} (h : (engine.operate data).result = .ok next)
    (hkind : next.kind = data.kind) {other : Json} (hother : other ∈ rowsOf next) :
    ∃ row ∈ rowsOf data, (engine.operateObject row).result = .ok other := by
  rcases rowsOf_cases engine data with ⟨rows, rfl⟩ | ⟨hsingle, hoperate⟩
  · have hobjects : ∀ row ∈ rows, row.kind = .object := by
      rw [← misshapenRow?_eq_none_iff]
      cases hmisshapen : misshapenRow? rows with
      | none => rfl
      | some row =>
        rw [operate, operateRows, hmisshapen] at h
        cases h
    obtain ⟨others, hothers, rfl⟩ := (operate_array_eq_ok_iff hobjects).1 h
    exact exists_left_of_forall₂ hothers hother
  · rw [hoperate] at h
    have hobject := hkind.trans (operateObject_eq_ok_iff.1 h).1
    cases next with
    | null | bool _ | number _ | string _ | array _ => cases hobject
    | object members =>
      obtain rfl := List.mem_singleton.1 hother
      exact ⟨data, hsingle ▸ List.mem_singleton_self data, h⟩

section Apply

variable {schema : Schema} {settings : Settings} {engine : Transform}
  (hengine : ofSchema schema Operator.builtin settings = .ok engine)
include hengine

/-- One operator on texts for each key does not fail. -/
theorem becomes_of_oneRewriter {view : FlatView} (hone : ∀ key ∈ view.keys, engine.OneRewriter key) :
    (engine.apply view).result.failure = none ∧
      view.Becomes (engine.apply view).result.view (composed engine.rules) := by
  obtain ⟨-, hdone, -, -⟩ := apply_spec engine view
  have hfailure : (engine.apply view).result.failure = none := by
    refine hdone.2 fun key value hvalue => ?_
    have hkey : key ∈ view.keys := OrderedMap.mem_keys_iff.2 ⟨value, OrderedMap.get?_eq_some_iff.1 hvalue⟩
    obtain ⟨first, -, hfirst, -⟩ := (hone key hkey).exists_results hengine value
    exact ⟨first, hfirst⟩
  exact ⟨hfailure, (applyRules_spec engine.rules view).1 hfailure⟩

/-- Rules with one operator on texts for each key make a view of which the next is final, and which is final itself
unless a text in it has been capitalized that does not stay so. -/
theorem apply_apply {view : FlatView} (hone : ∀ key ∈ view.keys, engine.OneRewriter key) :
    let first := (engine.apply view).result
    let second := (engine.apply first.view).result
    first.failure = none ∧ second.failure = none ∧ (engine.apply second.view).result = second ∧
      ((∀ key s, view.get? key = some (.string s) → engine.Capitalizes key → Text.StaysCapitalized s) →
        second = first) := by
  intro first second
  obtain ⟨hfirst, hbecomes⟩ := becomes_of_oneRewriter hengine hone
  obtain ⟨hsecond, hbecomes'⟩ := becomes_of_oneRewriter hengine fun key hkey => hone key (hbecomes.keys ▸ hkey)
  have hresults {key : String} {old : Json} (hold : view.get? key = some old) :=
    (hone key (OrderedMap.mem_keys_iff.2 ⟨old, OrderedMap.get?_eq_some_iff.1 hold⟩)).exists_results hengine old
  refine ⟨hfirst, hsecond, ?_, fun hstays => ?_⟩
  · have hagain : (engine.apply second.view).result = { view := second.view } := by
      refine apply_eq_of_composed rfl fun key value hvalue => ⟨value, ?_, hvalue⟩
      obtain ⟨middle, hmiddle, hvalue⟩ := hbecomes'.exists_of_get? hvalue
      obtain ⟨old, hold, hmiddle⟩ := hbecomes.exists_of_get? hmiddle
      obtain ⟨one, two, hone, htwo, hfinal, -⟩ := hresults hold
      cases hone.symm.trans hmiddle
      cases htwo.symm.trans hvalue
      exact hfinal
    rw [hagain, ← hsecond]
  · have hagain : second = { view := first.view } := by
      refine apply_eq_of_composed rfl fun key value hvalue => ⟨value, ?_, hvalue⟩
      obtain ⟨old, hold, hvalue⟩ := hbecomes.exists_of_get? hvalue
      obtain ⟨one, two, hone, htwo, -, hsame⟩ := hresults hold
      cases hone.symm.trans hvalue
      rw [htwo, hsame fun s hs => hstays key s (hs ▸ hold)]
    rw [hagain, ← hfirst]

variable (hdigit : ∀ c ∈ settings.separator.toList, c.isDigit = false) (hone : ∀ key, engine.OneRewriter key)
include hdigit hone

/-- What an object is rebuilt to has the terminals that the operators made, and nulls in the gaps of arrays, which stay
as they are. -/
theorem operateObject_operateObject {row next : Json}
    (hfront : ∀ key ∈ (row.flatten settings.separator).keys, ¬ settings.separator.toList <+: key.toList)
    (hstays : ∀ key s, (row.flatten settings.separator).get? key = some (.string s) → engine.Capitalizes key →
      Text.StaysCapitalized s) (hobject : next.kind = .object)
    (h : (engine.operateObject row).result = .ok next) : (engine.operateObject next).result = .ok next := by
  have hsep := separator_ne_empty hengine
  rw [operateObject_eq_ok_iff, settings_eq hengine] at h ⊢
  obtain ⟨-, -, hdeflate⟩ := h
  obtain ⟨hfailure, hbecomes⟩ :=
    @becomes_of_oneRewriter _ _ _ hengine (row.flatten settings.separator) fun key _ => hone key
  have hne : (engine.apply (row.flatten settings.separator)).result.view.entries ≠ [] := by
    intro hempty
    refine Json.keys_flatten_ne_nil settings.separator row ?_
    rw [← hbecomes.keys, OrderedMap.keys, hempty, Assoc.keys_nil]
  have hchains := givesTerminals_of_mem_chain hengine fun _ _ _ _ _ => Operator.givesTerminals_builtin
  obtain ⟨hentries, -, hrebuilt⟩ := FlatView.flatten_deflate hsep hdigit hne
    (isTerminal_of_mem_applyRules hchains (fun _ => Json.isTerminal_of_mem_flatten) hfailure)
    (fun key hkey => hfront key (hbecomes.keys ▸ hkey)) hdeflate
  have hagain : (engine.apply (next.flatten settings.separator)).result =
      { view := next.flatten settings.separator } := by
    refine apply_eq_of_composed rfl fun key value hvalue => ⟨value, ?_, hvalue⟩
    rcases (hentries _).1 (OrderedMap.get?_eq_some_iff.1 hvalue) with hentry | ⟨path, position, -, heq⟩
    · obtain ⟨old, hold, hvalue⟩ := hbecomes.exists_of_get? (OrderedMap.get?_eq_some_iff.2 hentry)
      obtain ⟨first, second, hfirst, hsecond, -, hsame⟩ := (hone key).exists_results hengine old
      cases hfirst.symm.trans hvalue
      rw [hsecond, hsame fun s hs => hstays key s (hs ▸ hold)]
    · obtain ⟨rfl, rfl⟩ := Prod.mk.inj heq
      exact (hone _).composed_null hengine
  rw [hagain]
  exact ⟨hobject, rfl, hrebuilt⟩

end Apply

/-- Trimming and changing the case of a text do nothing the second time, and capitalizing does not exactly if the text
stays capitalized; what has been capitalized twice does in any case. So rules that have one of these operators for each
key never fail, and applied again change nothing unless they capitalize a text that does not stay so, and nothing at
all the third time. Data that has been transformed by them is the same when it is transformed again, if its paths can
be read back and it has not been turned into data of another shape. -/
theorem operate_again :
    (∀ name ∈ ["Trim", "UpperCase", "LowerCase"], ∃ operator, Operator.builtin.get? name = some operator ∧
      ∀ value, operator.Settles value) ∧
    (∃ operator, Operator.builtin.get? "Capitalize" = some operator ∧ ∀ value,
      (operator.Settles value ↔ ∀ s, value = .string s → Text.StaysCapitalized s) ∧
      ∀ attributes result, operator.outcome attributes value = .ok result → operator.Settles result) ∧
    ∀ schema settings engine, ofSchema schema Operator.builtin settings = .ok engine →
      (∀ view : FlatView, (∀ key ∈ view.keys, engine.OneRewriter key) →
        let first := (engine.apply view).result
        let second := (engine.apply first.view).result
        first.failure = none ∧ second.failure = none ∧ (engine.apply second.view).result = second ∧
          ((∀ key s, view.get? key = some (.string s) → engine.Capitalizes key → Text.StaysCapitalized s) →
            second = first)) ∧
      ((∀ c ∈ settings.separator.toList, c.isDigit = false) → (∀ key, engine.OneRewriter key) →
        ∀ data next, (engine.operate data).result = .ok next → next.kind = data.kind →
          (∀ row ∈ rowsOf next, row.kind = .object) →
          (∀ row ∈ rowsOf data,
            (∀ key ∈ (row.flatten settings.separator).keys, ¬ settings.separator.toList <+: key.toList) ∧
            ∀ key s, (row.flatten settings.separator).get? key = some (.string s) → engine.Capitalizes key →
              Text.StaysCapitalized s) →
          (engine.operate next).result = .ok next) := by
  refine ⟨?_, ⟨Operator.capitalize, rfl, fun value => ⟨?_, ?_⟩⟩,
    fun schema settings engine hengine => ⟨fun view => apply_apply hengine, ?_⟩⟩
  · intro name hname
    have hentry : ∃ entry ∈ Operator.rewriters, entry.1 = name ∧ name ≠ "Capitalize" := by
      simp only [List.mem_cons, List.not_mem_nil, or_false] at hname
      rcases hname with rfl | rfl | rfl <;> simp [Operator.rewriters]
    obtain ⟨entry, hentry, rfl, hne⟩ := hentry
    refine ⟨_, Operator.get?_builtin_of_mem_rewriters entry hentry, fun value => ?_⟩
    rw [Operator.settles_onText_iff]
    exact fun s _ => Operator.rewrite_rewrite entry hentry s fun heq => absurd heq hne
  · simp only [Operator.capitalize, Operator.settles_onText_iff, Text.capitalize_capitalize_eq_iff]
  · intro attributes result hresult
    rw [Operator.capitalize, Operator.outcome_onText] at hresult
    cases hresult
    rw [Operator.capitalize, Operator.settles_onText_iff]
    intro s hs
    cases value with
    | string t =>
      cases hs
      exact Text.capitalize_capitalize_eq_iff.2 (Text.staysCapitalized_capitalize t)
    | null | bool _ | number _ | array _ | object _ => cases hs
  · intro hdigit hone data next h hkind hobjects hrows
    rw [operate_eq_ok_self_iff hobjects]
    intro other hother
    obtain ⟨row, hrow, hrewritten⟩ := exists_row_of_operate h hkind hother
    obtain ⟨hfront, hstays⟩ := hrows row hrow
    exact operateObject_operateObject hengine hdigit hone hfront hstays (hobjects other hother) hrewritten

/-- A text that does not stay capitalized, one that gets its first letter only when it is trimmed afterwards, an array
with a gap whose position holds the separator, a key that begins with the separator, and an object that becomes a list:
the second time each gives something else. -/
theorem operate_not_again :
    let twice (separator : String) (names : List String) (data : Json) : Except Error (Json × Except Error Json) := do
      let schema : Schema := { rules := [{ target := "a", operators := names.map fun name => { name } }] }
      let engine ← ofSchema schema Operator.builtin { separator }
      let first ← (engine.operate data).result
      return (first, (engine.operate first).result)
    (∃ operator, Operator.builtin.get? "Capitalize" = some operator ∧ ¬ operator.Settles (.string "ß") ∧
      operator.outcome {} (.string "ß") = .ok (.string "SS") ∧
      operator.outcome {} (.string "SS") = .ok (.string "Ss")) ∧
    twice "." ["Capitalize"] (.object [("a", .string "ß")]) =
      .ok (.object [("a", .string "SS")], .ok (.object [("a", .string "Ss")])) ∧
    twice "." ["Capitalize", "Trim"] (.object [("a", .string " b")]) =
      .ok (.object [("a", .string "b")], .ok (.object [("a", .string "B")])) ∧
    twice "1" ["Trim"] (.object [("a", .object [("0", .null), ("2", .null)])]) =
      .ok (.object [("a", .array [.null, .null, .null])], .error (.ambiguousContainer "a")) ∧
    twice "." ["Trim"] (.object [(".a", .string "b")]) =
      .ok (.object [("", .object [("a", .string "b")])], .ok (.object [("a", .string "b")])) ∧
    twice "." ["Trim"] (.object [("0", .string "b")]) =
      .ok (.array [.string "b"], .error (.invalidShape .string)) := by
  intro twice
  have hone : Operator.capitalize.outcome {} (.string "ß") = .ok (.string "SS") := rfl
  have htwo : Operator.capitalize.outcome {} (.string "SS") = .ok (.string "Ss") := rfl
  refine ⟨⟨Operator.capitalize, rfl, fun hsettles => ?_, hone, htwo⟩, by decide +kernel, by decide +kernel,
    by decide +kernel, by decide +kernel, by decide +kernel⟩
  obtain ⟨result, hresult, hagain⟩ := hsettles {}
  cases hone.symm.trans hresult
  exact absurd (htwo.symm.trans hagain) (by decide)

/-- A sharp s that is not the first character, white space within an array, and rules that meet at no key. -/
theorem operate_again_rows :
    let schema : Schema := { rules := [{ target := "a.*", operators := [{ name := "Trim" }] },
      { target := "b", operators := [{ name := "Capitalize" }] }] }
    let data : Json := .array [.object [("a", .array [.string " x ", .null]), ("b", .string "straße")]]
    let next : Json := .array [.object [("a", .array [.string "x", .null]), ("b", .string "Straße")]]
    ∃ engine, ofSchema schema Operator.builtin {} = .ok engine ∧ (engine.operate data).result = .ok next ∧
      (engine.operate next).result = .ok next := by
  intro schema data next
  let trimming : TransformRule := ⟨⟨{ target := "a.*", operators := [{ name := "Trim" }] }, ⟨"a.*", ".", rfl, rfl⟩, []⟩,
    [⟨{ name := "Trim" }, Operator.trim⟩]⟩
  let capitalizing : TransformRule :=
    ⟨⟨{ target := "b", operators := [{ name := "Capitalize" }] }, ⟨"b", ".", rfl, rfl⟩, []⟩,
      [⟨{ name := "Capitalize" }, Operator.capitalize⟩]⟩
  let engine : Transform := { rules := [trimming, capitalizing], settings := {} }
  have hengine : ofSchema schema Operator.builtin {} = .ok engine := rfl
  have hone (key : String) : engine.OneRewriter key := by
    by_cases hkey : key = "b"
    · subst hkey
      exact ⟨("Capitalize", Text.capitalize), by simp [Operator.rewriters], by decide +kernel⟩
    · refine ⟨("Trim", Text.trim), by simp [Operator.rewriters], fun step hstep => ?_⟩
      obtain ⟨rule, hrule, hstep⟩ := List.mem_flatMap.1 hstep
      obtain ⟨hmem, htest⟩ := List.mem_filter.1 hrule
      rcases List.mem_pair.1 hmem with rfl | rfl
      · rw [List.mem_singleton.1 hstep]
      · exact absurd ((Pattern.test_iff_eq_text (by decide +kernel)).1 htest) hkey
  obtain ⟨-, -, hagain⟩ := operate_again
  refine ⟨engine, hengine, by decide +kernel, ?_⟩
  refine (hagain schema {} engine hengine).2 (by simp) hone data next (by decide +kernel) rfl
    (List.forall_mem_singleton.2 rfl) (List.forall_mem_singleton.2 ⟨by decide +kernel, ?_⟩)
  intro key s hvalue _
  have hentries : ((Json.object [("a", .array [.string " x ", .null]), ("b", .string "straße")]).flatten ".").entries =
      [("a.0", .string " x "), ("a.1", .null), ("b", .string "straße")] := by decide +kernel
  have hs : s = " x " ∨ s = "straße" := by
    have hentry := OrderedMap.get?_eq_some_iff.1 hvalue
    rw [hentries] at hentry
    simp only [List.mem_cons, List.not_mem_nil, or_false, Prod.mk.injEq, Json.string.injEq, reduceCtorEq, and_false,
      false_or] at hentry
    exact hentry.imp And.right And.right
  have hupper : Text.upperChar ' ' = [' '] ∧ Text.upperChar 's' = ['S'] := by decide +kernel
  rcases hs with rfl | rfl
  · exact Text.staysCapitalized_of_upperChar rfl hupper.1
  · exact Text.staysCapitalized_of_upperChar rfl hupper.2

end Engine.Transform

end FieldRules
