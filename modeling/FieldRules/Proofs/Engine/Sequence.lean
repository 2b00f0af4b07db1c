import FieldRules.Operator.Builtin
import FieldRules.Proofs.Engine.Places

/-!
Two schemas one after the other. Between the two an object is rebuilt and taken apart again, which makes no
difference as long as the operators of the first schema give terminals: then what the second schema starts with
is the view that the first one left.
-/

namespace FieldRules

namespace Operator

/-- All values that an operator gives are terminals. -/
def GivesTerminals (operator : Operator) : Prop :=
  ∀ value attributes result, operator value attributes = .ok (some result) → result.isTerminal = true

theorem givesTerminals_onText (rewrite : String → String) : GivesTerminals (onText rewrite) := by
  intro value attributes result h
  cases value with
  | string s =>
    cases h
    rfl
  | null | bool _ | number _ | array _ | object _ => cases h

theorem isTerminal_of_resultValue_eq_ok {result : Double} {value : Json} (h : resultValue result = .ok value) :
    value.isTerminal = true := by
  cases result with
  | finite x =>
    cases h
    rfl
  | _ => cases h

theorem givesTerminals_arithmetic (argumentName : String) (calculate : Double → Double → Double) :
    GivesTerminals (arithmetic argumentName calculate) := by
  intro value attributes result h
  simp only [arithmetic, bind_eq_ok_iff] at h
  obtain ⟨operand, -, argument, -, number, hnumber, h⟩ := h
  cases h
  exact isTerminal_of_resultValue_eq_ok hnumber

theorem givesTerminals_divide : GivesTerminals divide := by
  intro value attributes result h
  unfold divide at h
  obtain ⟨argument, -, h⟩ := bind_eq_ok_iff.1 h
  split at h
  · cases h
  · exact givesTerminals_arithmetic _ _ value attributes result h

theorem givesTerminals_builtin {name : String} {operator : Operator}
    (h : Operator.builtin.get? name = some operator) : GivesTerminals operator := by
  have hmem := OrderedMap.mem_of_mem_entries_ofList (OrderedMap.get?_eq_some_iff.1 h)
  simp only [List.mem_cons, Prod.mk.injEq, List.not_mem_nil, or_false] at hmem
  rcases hmem with ⟨-, rfl⟩ | ⟨-, rfl⟩ | ⟨-, rfl⟩ | ⟨-, rfl⟩ | ⟨-, rfl⟩ | ⟨-, rfl⟩ | ⟨-, rfl⟩ | ⟨-, rfl⟩
  · exact givesTerminals_onText _
  · exact givesTerminals_onText _
  · exact givesTerminals_onText _
  · exact givesTerminals_onText _
  · exact givesTerminals_arithmetic _ _
  · exact givesTerminals_arithmetic _ _
  · exact givesTerminals_arithmetic _ _
  · exact givesTerminals_divide

end Operator

namespace Engine.Transform

theorem applyRules_append (view : FlatView) (before after : List TransformRule) :
    (applyRules view (before ++ after)).result =
      match (applyRules view before).result.failure with
      | some _ => (applyRules view before).result
      | none => (applyRules (applyRules view before).result.view after).result := by
  induction before generalizing view with
  | nil => rfl
  | cons rule rest ih =>
    rw [List.cons_append, applyRules, applyRules]
    cases hfirst : (rewritePaths rule.chain view
        (view.findMatches rule.compiled.pattern).keys).result.failure with
    | some failure => simp only [hfirst]
    | none => exact ih _

/-- A chain of operators that give terminals makes terminals of terminals. -/
theorem isTerminal_of_foldlM_rewrite {chain : List (Step OperatorSpec Operator)}
    (hchain : ∀ step ∈ chain, Operator.GivesTerminals step.function) {key : String} {value result : Json}
    (hvalue : value.isTerminal = true) (h : chain.foldlM (rewrite key) value = .ok result) :
    result.isTerminal = true := by
  induction chain generalizing value with
  | nil =>
    cases h
    exact hvalue
  | cons step rest ih =>
    obtain ⟨hstep, hrest⟩ := List.forall_mem_cons.1 hchain
    rw [List.foldlM_cons] at h
    obtain ⟨next, hnext, h⟩ := bind_eq_ok_iff.1 h
    refine ih hrest ?_ h
    unfold rewrite at hnext
    cases hcall : step.function value step.spec.attributes with
    | error complaint =>
      rw [hcall] at hnext
      cases hnext
    | ok given =>
      rw [hcall] at hnext
      cases hnext
      cases given with
      | none => exact hvalue
      | some given => exact hstep _ _ _ hcall

/-- Rules whose operators give terminals leave a view of terminals. -/
theorem isTerminal_of_mem_applyRules {rules : List TransformRule}
    (hrules : ∀ rule ∈ rules, ∀ step ∈ rule.chain, Operator.GivesTerminals step.function) {view : FlatView}
    (hview : ∀ entry ∈ view.entries, entry.2.isTerminal = true)
    (hdone : (applyRules view rules).result.failure = none) :
    ∀ entry ∈ (applyRules view rules).result.view.entries, entry.2.isTerminal = true := by
  rintro ⟨key, result⟩ hentry
  have hbecomes := (applyRules_spec rules view).1 hdone
  obtain ⟨value, hvalue, hrewritten⟩ := hbecomes.exists_of_get? (OrderedMap.get?_eq_some_iff.2 hentry)
  refine isTerminal_of_foldlM_rewrite ?_ (hview _ (OrderedMap.get?_eq_some_iff.1 hvalue)) hrewritten
  intro step hstep
  obtain ⟨rule, hrule, hstep⟩ := List.mem_flatMap.1 hstep
  exact hrules rule (List.mem_of_mem_filter hrule) step hstep

section OfSchema

variable {first second joined : Schema} {registry : Registry Operator} {settings : Settings}
  {before after : Transform}

/-- Engines for two schemas make one for their rules together. -/
theorem exists_ofSchema_append (hrules : joined.rules = first.rules ++ second.rules)
    (hbefore : ofSchema first registry settings = .ok before)
    (hafter : ofSchema second registry settings = .ok after) :
    ofSchema joined registry settings = .ok ⟨before.rules ++ after.rules, settings⟩ := by
  obtain ⟨hcheck, -, hfirst⟩ := ofSchema_eq_ok_iff.1 hbefore
  obtain ⟨-, -, hsecond⟩ := ofSchema_eq_ok_iff.1 hafter
  refine ofSchema_eq_ok_iff.2 ⟨hcheck, rfl, ?_⟩
  rw [hrules, operating, List.filter_append]
  exact List.rel_append hfirst hsecond

theorem givesTerminals_of_mem_chain (hbefore : ofSchema first registry settings = .ok before)
    (hterminals : ∀ rule ∈ first.rules, ∀ spec ∈ rule.operators, ∀ operator,
      registry.get? spec.name = some operator → Operator.GivesTerminals operator) :
    ∀ rule ∈ before.rules, ∀ step ∈ rule.chain, Operator.GivesTerminals step.function := by
  intro ready hready step hstep
  obtain ⟨⟨rule, hrule, hspec⟩, hfunction⟩ := exists_rule_of_mem_chain hbefore hready hstep
  exact hterminals rule hrule _ hspec _ hfunction

end OfSchema

/-- No rule goes to work at the root. -/
theorem rewriteAt_nil (engine : Transform) (value : Json) : engine.rewriteAt [] value = .ok value := by
  have hnone : engine.operatorsAt [] = [] := by
    simp [operatorsAt, List.forall₂_nil_right_iff, Path.segments_ne_nil]
  rw [rewriteAt, hnone]
  rfl

/-- What rules that do not fail leave of an object is rebuilt to an object. Its flat view is what they left, if
that has terminals only. -/
theorem exists_object_of_failure_eq_none {schema : Schema} {registry : Registry Operator} {settings : Settings}
    {engine : Transform} (hengine : ofSchema schema registry settings = .ok engine)
    {members : List (String × Json)} (hv : (Json.object members).WellFormed)
    (hdigit : ∀ c ∈ settings.separator.toList, c.isDigit = false)
    (hkeys : (Json.object members).KeysAvoid settings.separator) (hd : (Json.object members).Rebuildable) :
    let final := (applyRules ((Json.object members).flatten settings.separator) engine.rules).result
    final.failure = none → ∃ others, final.view.deflate settings.separator = .ok (.object others) ∧
      ((∀ entry ∈ final.view.entries, entry.2.isTerminal = true) →
        (Json.object others).flatten settings.separator = final.view) := by
  intro final hfinal
  have hsep := separator_ne_empty hengine
  have hspelled := Json.spelled_of_keysAvoid hsep hdigit hkeys hd.root
  have hbecomes := (applyRules_spec engine.rules ((Json.object members).flatten settings.separator)).1 hfinal
  have hok := Json.deflate_of_keys_eq hspelled hv hbecomes.keys hsep hd.toRegular
  have hview := Json.flatten_mapPlaces hspelled hv hbecomes.keys
  obtain ⟨others, hothers⟩ : ∃ others, (Json.object members).mapPlaces (fun steps _ =>
      Json.valueAt settings.separator final.view (steps.map Json.Step.segment)) = .object others := by
    by_cases hempty : members = []
    · subst hempty
      have hplace : (([], .object []) : List Json.Step × Json) ∈ (Json.object []).places := by simp [Json.places]
      have hroot := rewriteAt_of_failure_eq_none hengine hdigit hkeys hd.root hv hfinal hplace
      rw [rewriteAt_nil] at hroot
      exact ⟨[], (Json.mapPlaces_of_terminal rfl _).trans (Except.ok.inj hroot).symm⟩
    · exact ⟨_, Json.mapPlaces_object hempty _⟩
  rw [hothers] at hok hview
  exact ⟨others, hok, hview⟩

/-- One pass over the rules of two schemas is a pass over those of the first and then, on what it gives, a pass
over those of the second, with the same result or the same failure, if the operators of the first schema give
terminals only. All operators that are there from the start do. -/
theorem operate_append {first second joined : Schema} {registry : Registry Operator} {settings : Settings}
    {before after : Transform} (hrules : joined.rules = first.rules ++ second.rules)
    (hbefore : ofSchema first registry settings = .ok before)
    (hafter : ofSchema second registry settings = .ok after)
    (hterminals : ∀ rule ∈ first.rules, ∀ spec ∈ rule.operators, ∀ operator,
      registry.get? spec.name = some operator → Operator.GivesTerminals operator)
    {members : List (String × Json)} (hv : (Json.object members).WellFormed)
    (hdigit : ∀ c ∈ settings.separator.toList, c.isDigit = false)
    (hkeys : (Json.object members).KeysAvoid settings.separator) (hd : (Json.object members).Rebuildable) :
    (∀ name operator, Operator.builtin.get? name = some operator → Operator.GivesTerminals operator) ∧
    ∃ engine, ofSchema joined registry settings = .ok engine ∧
      (engine.operate (.object members)).result =
        (before.operate (.object members)).result >>= fun next => (after.operate next).result := by
  refine ⟨fun _ _ => Operator.givesTerminals_builtin, _, exists_ofSchema_append hrules hbefore hafter, ?_⟩
  have hoperate (engine : Transform) (members : List (String × Json)) :
      engine.operate (.object members) = engine.operateObject (.object members) := rfl
  have hbeforeSettings := settings_eq hbefore
  have hafterSettings := settings_eq hafter
  let view := (Json.object members).flatten settings.separator
  have hview : ∀ entry ∈ view.entries, entry.2.isTerminal = true :=
    fun entry hentry => Json.isTerminal_of_mem_flatten hentry
  rw [hoperate, hoperate, result_operateObject, result_operateObject, hbeforeSettings, applyRules_append]
  cases hfinal : (applyRules view before.rules).result.failure with
  | some failure =>
    simp only [view] at hfinal
    simp only [hfinal]
    rfl
  | none =>
    obtain ⟨others, hok, hflatten⟩ := exists_object_of_failure_eq_none hbefore hv hdigit hkeys hd hfinal
    have hchains := givesTerminals_of_mem_chain hbefore hterminals
    have hleft := hflatten (isTerminal_of_mem_applyRules hchains hview hfinal)
    simp only [view] at hfinal
    simp only [hfinal, hok]
    change _ = (after.operate (.object others)).result
    rw [hoperate, result_operateObject, hafterSettings, hleft]

/-- An operator of the second schema may put a whole array where the first one put an empty one. -/
theorem operate_append_container :
    let registry : Registry Operator := OrderedMap.ofList
      [("Clear", fun _ _ => .ok (some (.array []))), ("Wrap", fun value _ => .ok (some (.array [value])))]
    let first : Schema := { rules := [{ target := "a", operators := [{ name := "Clear" }] }] }
    let second : Schema := { rules := [{ target := "a", operators := [{ name := "Wrap" }] }] }
    let members : List (String × Json) := [("b", .bool true), ("a", .null)]
    (Json.object members).WellFormed ∧ (Json.object members).KeysAvoid "." ∧ (Json.object members).Rebuildable ∧
      ∃ before after engine, ofSchema first registry {} = .ok before ∧ ofSchema second registry {} = .ok after ∧
        ofSchema { rules := first.rules ++ second.rules } registry {} = .ok engine ∧
        (before.operate (.object members)).result = .ok (.object [("b", .bool true), ("a", .array [])]) ∧
        (engine.operate (.object members)).result = .ok (.object [("b", .bool true), ("a", .array [.array []])]) ∧
        (engine.operate (.object members)).result =
          (before.operate (.object members)).result >>= fun next => (after.operate next).result := by
  intro registry first second members
  have hterminal (value : Json) (h : value.isTerminal = true) : value.KeysAvoid "." ∧ value.Regular :=
    ⟨Json.keysAvoid_of_terminal h, Json.regular_of_terminal h⟩
  have hnull := hterminal .null rfl
  have htrue := hterminal (.bool true) rfl
  have hv : (Json.object members).WellFormed := by
    simp [members, Json.WellFormed, Json.WellFormedMembers]
  have hkeys : (Json.object members).KeysAvoid "." := by
    simp [members, Json.keysAvoid_object_iff, Path.Avoids, hnull.1, htrue.1]
  have hregular : (Json.object members).Regular := by
    have hnames : Path.isIndex "b" = false ∧ Path.isIndex "a" = false := by decide
    simpa [members, Json.regular_object_iff, hnull.2, htrue.2] using hnames
  have hd : (Json.object members).Rebuildable := by
    refine ⟨hregular, ?_⟩
    rintro others ⟨rfl⟩
    decide
  let clearing : TransformRule :=
    ⟨⟨{ target := "a", operators := [{ name := "Clear" }] }, ⟨"a", ".", rfl, rfl⟩, []⟩,
      [⟨{ name := "Clear" }, fun _ _ => .ok (some (.array []))⟩]⟩
  let wrapping : TransformRule :=
    ⟨⟨{ target := "a", operators := [{ name := "Wrap" }] }, ⟨"a", ".", rfl, rfl⟩, []⟩,
      [⟨{ name := "Wrap" }, fun value _ => .ok (some (.array [value]))⟩]⟩
  have hbefore : ofSchema first registry {} = .ok ⟨[clearing], {}⟩ := rfl
  have hafter : ofSchema second registry {} = .ok ⟨[wrapping], {}⟩ := rfl
  have hboth : ofSchema { rules := first.rules ++ second.rules } registry {} =
      .ok ⟨[clearing, wrapping], {}⟩ := rfl
  have hterminals : ∀ rule ∈ first.rules, ∀ spec ∈ rule.operators, ∀ operator,
      registry.get? spec.name = some operator → Operator.GivesTerminals operator := by
    intro rule hrule spec hspec operator hoperator
    obtain rfl : rule = { target := "a", operators := [{ name := "Clear" }] } := List.mem_singleton.1 hrule
    obtain rfl : spec = { name := "Clear" } := List.mem_singleton.1 hspec
    cases hoperator
    intro value attributes result hresult
    cases hresult
    rfl
  have hrules : ({ rules := first.rules ++ second.rules } : Schema).rules = first.rules ++ second.rules := rfl
  obtain ⟨-, engine, hengine, hsame⟩ :=
    operate_append hrules hbefore hafter hterminals hv (by simp) hkeys hd
  obtain rfl : (⟨[clearing, wrapping], {}⟩ : Transform) = engine := Except.ok.inj (hboth.symm.trans hengine)
  exact ⟨hv, hkeys, hd, _, _, _, hbefore, hafter, hboth, by decide +kernel, by decide +kernel, hsame⟩

end Engine.Transform

end FieldRules
