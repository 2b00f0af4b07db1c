import FieldRules.Engine.Transform
import FieldRules.Proofs.Engine.Rule

/-!
Rewriting rule by rule over a whole view is rewriting key by key: what becomes of a value depends on
the rules that address its key and on nothing else in the view. A failure leaves the view as the steps
before it made it.
-/

namespace FieldRules

/-- A view after its values have been rewritten in their places, each by what its key asks for. -/
structure FlatView.Becomes (view next : FlatView) (rewrite : String → Json → Except Error Json) : Prop where
  keys : next.keys = view.keys
  values : ∀ key value, view.get? key = some value →
    ∃ result, rewrite key value = .ok result ∧ next.get? key = some result

namespace FlatView.Becomes

variable {view middle next : FlatView} {f g : String → Json → Except Error Json}

theorem refl (view : FlatView) : view.Becomes view fun _ value => .ok value :=
  ⟨rfl, fun _ value hvalue => ⟨value, rfl, hvalue⟩⟩

/-- One rewriting after another is the rewriting of each value by the one and then the other. -/
theorem trans (h : view.Becomes middle f) (h' : middle.Becomes next g) :
    view.Becomes next fun key value => f key value >>= g key := by
  refine ⟨h'.keys.trans h.keys, ?_⟩
  intro key value hvalue
  obtain ⟨result, hresult, hmiddle⟩ := h.values key value hvalue
  obtain ⟨final, hfinal, hnext⟩ := h'.values key result hmiddle
  exact ⟨final, bind_eq_ok_iff.2 ⟨result, hresult, hfinal⟩, hnext⟩

theorem congr (h : view.Becomes next f)
    (heq : ∀ key value, view.get? key = some value → f key value = g key value) : view.Becomes next g := by
  refine ⟨h.keys, ?_⟩
  intro key value hvalue
  obtain ⟨result, hresult, hnext⟩ := h.values key value hvalue
  exact ⟨result, heq key value hvalue ▸ hresult, hnext⟩

/-- What stands at a key has come of a value that stood there. -/
theorem exists_of_get? (h : view.Becomes next f) {key : String} {result : Json}
    (hresult : next.get? key = some result) : ∃ value, view.get? key = some value ∧ f key value = .ok result := by
  have hkey : key ∈ view.keys :=
    h.keys ▸ OrderedMap.mem_keys_iff.2 ⟨result, OrderedMap.get?_eq_some_iff.1 hresult⟩
  obtain ⟨value, hentry⟩ := OrderedMap.mem_keys_iff.1 hkey
  have hvalue := OrderedMap.get?_eq_some_iff.2 hentry
  obtain ⟨other, hother, hnext⟩ := h.values key value hvalue
  exact ⟨value, hvalue, Option.some.inj (hnext.symm.trans hresult) ▸ hother⟩

/-- Writing at a key that is there rewrites that value alone. -/
theorem insert {key : String} {value result : Json} (hvalue : view.get? key = some value)
    (hresult : f key value = .ok result) :
    view.Becomes (view.insert key result) fun other value =>
      if other = key then f other value else .ok value := by
  refine ⟨?_, ?_⟩
  · rw [OrderedMap.keys_insert, if_pos]
    exact OrderedMap.mem_keys_iff.2 ⟨value, OrderedMap.get?_eq_some_iff.1 hvalue⟩
  · intro other old hold
    by_cases heq : other = key
    · subst heq
      obtain rfl := Option.some.inj (hvalue.symm.trans hold)
      exact ⟨result, by simpa using hresult, by simp⟩
    · exact ⟨old, by simp [heq], by simpa [Ne.symm heq] using hold⟩

end FlatView.Becomes

namespace Engine.Transform

/-- One operator on the value at a key. If it gives no value, its own goes on. -/
def rewrite (key : String) (value : Json) (step : Step OperatorSpec Operator) : Except Error Json :=
  match step.function value step.spec.attributes with
  | .error complaint => .error (.operatorFailed step.spec.name key complaint)
  | .ok next => .ok (next.getD value)

/-- The operators that rules have for a key: the chains of those that address it, in the order of the
rules. -/
def stepsFor (rules : List TransformRule) (key : String) : List (Step OperatorSpec Operator) :=
  (rules.filter fun rule => rule.compiled.pattern.test key).flatMap (·.chain)

/-- What rules make of the value at a key, without regard to the rest of a view. -/
def composed (rules : List TransformRule) (key : String) (value : Json) : Except Error Json :=
  (stepsFor rules key).foldlM (rewrite key) value

theorem result_runChain (chain : List (Step OperatorSpec Operator)) (key : String) (value : Json) :
    (runChain key value chain).result = chain.foldlM (rewrite key) value := by
  induction chain generalizing value with
  | nil => rfl
  | cons step rest ih =>
    rw [runChain, List.foldlM_cons, rewrite]
    cases step.function value step.spec.attributes with
    | error complaint => rfl
    | ok next => exact ih _

@[simp] theorem composed_nil (key : String) (value : Json) : composed [] key value = .ok value := rfl

/-- Rules go to work on what the rules before them gave. -/
theorem composed_append (before rules : List TransformRule) (key : String) (value : Json) :
    composed (before ++ rules) key value = composed before key value >>= composed rules key := by
  simp only [composed, stepsFor, List.filter_append, List.flatMap_append, List.foldlM_append]
  rfl

theorem composed_singleton (rule : TransformRule) (key : String) (value : Json) :
    composed [rule] key value =
      if rule.compiled.pattern.test key then rule.chain.foldlM (rewrite key) value else .ok value := by
  by_cases htest : rule.compiled.pattern.test key
  · simp [composed, stepsFor, htest]
  · simp [composed, stepsFor, htest, pure, Except.pure]

/-- A chain that fails names one of its operators and the key. -/
theorem operatorFailed_of_foldlM_eq_error {chain : List (Step OperatorSpec Operator)} {key : String}
    {value : Json} {failure : Error} (h : chain.foldlM (rewrite key) value = .error failure) :
    ∃ step ∈ chain, ∃ complaint, failure = .operatorFailed step.spec.name key complaint := by
  induction chain generalizing value with
  | nil => cases h
  | cons step rest ih =>
    rw [List.foldlM_cons] at h
    cases hstep : rewrite key value step with
    | error e =>
      rw [hstep] at h
      cases h
      rw [rewrite] at hstep
      cases hcall : step.function value step.spec.attributes with
      | error complaint =>
        rw [hcall] at hstep
        cases hstep
        exact ⟨step, List.mem_cons_self, complaint, rfl⟩
      | ok next =>
        rw [hcall] at hstep
        cases hstep
    | ok next =>
      rw [hstep] at h
      obtain ⟨other, hother, hfailure⟩ := ih h
      exact ⟨other, List.mem_cons_of_mem _ hother, hfailure⟩

/-- A chain at some keys only. -/
private def atKeys (chain : List (Step OperatorSpec Operator)) (keys : List String) (key : String)
    (value : Json) : Except Error Json :=
  if key ∈ keys then chain.foldlM (rewrite key) value else .ok value

private theorem atKeys_cons {chain : List (Step OperatorSpec Operator)} {path : String} {rest : List String}
    (hfresh : path ∉ rest) (key : String) (value : Json) :
    ((if key = path then chain.foldlM (rewrite key) value else .ok value) >>= atKeys chain rest key) =
      atKeys chain (path :: rest) key value := by
  by_cases heq : key = path
  · subst heq
    simp only [atKeys, List.mem_cons, true_or, ↓reduceIte]
    cases chain.foldlM (rewrite key) value with
    | error e => rfl
    | ok next => simp [bind, Except.bind, hfresh, atKeys]
  · simp [atKeys, heq, bind, Except.bind]

/-- The chain of a rule rewrites the values at the keys in turn. Where it fails, the keys before have
been rewritten and no other. -/
theorem rewritePaths_spec {chain : List (Step OperatorSpec Operator)} {view : FlatView} {paths : List String}
    (hpaths : ∀ path ∈ paths, path ∈ view.keys) (hnodup : paths.Nodup) :
    let final := (rewritePaths chain view paths).result
    (final.failure = none → view.Becomes final.view (atKeys chain paths)) ∧
    ∀ failure, final.failure = some failure → ∃ done key rest value, paths = done ++ key :: rest ∧
      view.get? key = some value ∧ chain.foldlM (rewrite key) value = .error failure ∧
      view.Becomes final.view (atKeys chain done) := by
  induction paths generalizing view with
  | nil => exact ⟨fun _ => (FlatView.Becomes.refl view).congr fun _ _ _ => by simp [atKeys], nofun⟩
  | cons path rest ih =>
    obtain ⟨hpath, hrest⟩ := List.forall_mem_cons.1 hpaths
    obtain ⟨hfresh, hnodupRest⟩ := List.nodup_cons.1 hnodup
    obtain ⟨value, hentry⟩ := OrderedMap.mem_keys_iff.1 hpath
    have hvalue := OrderedMap.get?_eq_some_iff.2 hentry
    simp only [rewritePaths, hvalue, result_runChain]
    cases hrun : chain.foldlM (rewrite path) value with
    | error e =>
      refine ⟨nofun, ?_⟩
      rintro failure ⟨rfl⟩
      exact ⟨[], path, rest, value, rfl, hvalue, hrun,
        (FlatView.Becomes.refl view).congr fun _ _ _ => by simp [atKeys]⟩
    | ok next =>
      have hinsert := FlatView.Becomes.insert (f := fun key value => chain.foldlM (rewrite key) value)
        hvalue hrun
      obtain ⟨hdone, hfailed⟩ := @ih (view.insert path next)
        (fun other hother => hinsert.keys ▸ hrest other hother) hnodupRest
      have hthen {keys : List String} {final : FlatView} (hkeys : path ∉ keys)
          (h : FlatView.Becomes (view.insert path next) final (atKeys chain keys)) :
          view.Becomes final (atKeys chain (path :: keys)) :=
        (hinsert.trans h).congr fun key old _ => atKeys_cons hkeys key old
      refine ⟨fun h => hthen hfresh (hdone h), fun failure h => ?_⟩
      obtain ⟨done, key, others, old, rfl, hkey, hfailure, hbecomes⟩ := hfailed failure h
      have hne : path ≠ key := by
        rintro rfl
        exact hfresh (by simp)
      refine ⟨path :: done, key, others, old, rfl, ?_, hfailure, hthen ?_ hbecomes⟩
      · simpa [hne] using hkey
      · exact fun hmem => hfresh (List.mem_append_left _ hmem)

/-- A rule rewrites a view as it composes at each key, up to the first key where its chain fails. -/
theorem rewritePaths_matches_spec (rule : TransformRule) (view : FlatView) :
    let final := (rewritePaths rule.chain view (view.findMatches rule.compiled.pattern).keys).result
    (final.failure = none → view.Becomes final.view (composed [rule])) ∧
    ∀ failure, final.failure = some failure → ∃ done key rest value,
      view.keys.filter rule.compiled.pattern.test = done ++ key :: rest ∧ view.get? key = some value ∧
      composed [rule] key value = .error failure ∧
      view.Becomes final.view fun key => composed (if key ∈ done then [rule] else []) key := by
  have hpaths : ∀ path ∈ view.keys.filter rule.compiled.pattern.test, path ∈ view.keys :=
    fun path hpath => List.mem_of_mem_filter hpath
  have htest (path : String) (hpath : path ∈ view.keys.filter rule.compiled.pattern.test) :
      rule.compiled.pattern.test path = true := (List.mem_filter.1 hpath).2
  obtain ⟨hdone, hfailed⟩ := @rewritePaths_spec rule.chain view _ hpaths
    (view.distinct.sublist List.filter_sublist)
  rw [FlatView.keys_findMatches]
  refine ⟨fun h => (hdone h).congr fun key value hvalue => ?_, fun failure h => ?_⟩
  · have hkey : key ∈ view.keys := OrderedMap.mem_keys_iff.2 ⟨value, OrderedMap.get?_eq_some_iff.1 hvalue⟩
    rw [composed_singleton, atKeys]
    simp [List.mem_filter, hkey]
  · obtain ⟨done, key, rest, value, hsplit, hvalue, hfailure, hbecomes⟩ := hfailed failure h
    have hmatches (other : String) (hother : other ∈ done ++ [key]) :
        rule.compiled.pattern.test other = true := by
      refine htest other ?_
      rw [hsplit, List.append_cons]
      exact List.mem_append_left _ hother
    refine ⟨done, key, rest, value, hsplit, hvalue, ?_, hbecomes.congr fun other old _ => ?_⟩
    · rw [composed_singleton, if_pos (hmatches key (by simp)), hfailure]
    · by_cases hother : other ∈ done
      · rw [if_pos hother, composed_singleton, if_pos (hmatches other (by simp [hother])), atKeys,
          if_pos hother]
      · rw [if_neg hother, composed_nil, atKeys, if_neg hother]

/-- Rules rewrite a view as they compose at each key, up to the first rule and its first key at which a
chain fails. -/
theorem applyRules_spec (rules : List TransformRule) (view : FlatView) :
    let final := (applyRules view rules).result
    (final.failure = none → view.Becomes final.view (composed rules)) ∧
    ∀ failure, final.failure = some failure → ∃ before rule after done key rest value,
      rules = before ++ rule :: after ∧
      view.keys.filter rule.compiled.pattern.test = done ++ key :: rest ∧ view.get? key = some value ∧
      composed (before ++ [rule]) key value = .error failure ∧
      view.Becomes final.view fun key => composed (if key ∈ done then before ++ [rule] else before) key := by
  induction rules generalizing view with
  | nil => exact ⟨fun _ => .refl view, nofun⟩
  | cons rule rest ih =>
    obtain ⟨hdone, hfailed⟩ := rewritePaths_matches_spec rule view
    rw [applyRules]
    cases hfirst : (rewritePaths rule.chain view (view.findMatches rule.compiled.pattern).keys).result.failure with
    | some e =>
      refine ⟨fun h => by simp [hfirst] at h, fun failure h => ?_⟩
      obtain ⟨done, key, others, value, hsplit, hvalue, hfailure, hbecomes⟩ := hfailed failure h
      exact ⟨[], rule, rest, done, key, others, value, rfl, hsplit, hvalue, hfailure, hbecomes⟩
    | none =>
      have hrule := hdone hfirst
      obtain ⟨hrest, hstopped⟩ :=
        ih (rewritePaths rule.chain view (view.findMatches rule.compiled.pattern).keys).result.view
      refine ⟨fun h => (hrule.trans (hrest h)).congr fun key value _ => ?_, fun failure h => ?_⟩
      · exact (composed_append [rule] rest key value).symm
      · obtain ⟨before, stopped, after, done, key, others, value, rfl, hsplit, hvalue, hfailure, hbecomes⟩ :=
          hstopped failure h
        rw [hrule.keys] at hsplit
        obtain ⟨old, hentry⟩ := OrderedMap.mem_keys_iff.1
          (hrule.keys ▸ OrderedMap.mem_keys_iff.2 ⟨value, OrderedMap.get?_eq_some_iff.1 hvalue⟩)
        have hold := OrderedMap.get?_eq_some_iff.2 hentry
        obtain ⟨middle, hmiddle, hkey⟩ := hrule.values key old hold
        obtain rfl := Option.some.inj (hvalue.symm.trans hkey)
        refine ⟨rule :: before, stopped, after, done, key, others, old, rfl, hsplit, hold, ?_, ?_⟩
        · rw [List.cons_append, ← List.singleton_append, composed_append, hmiddle]
          exact hfailure
        · refine (hrule.trans hbecomes).congr fun other first _ => ?_
          by_cases hother : other ∈ done
          · simp only [if_pos hother]
            exact (composed_append [rule] (before ++ [stopped]) other first).symm
          · simp only [if_neg hother]
            exact (composed_append [rule] before other first).symm

/-- Applying an engine changes no key and gives each key what the chains that address it compose to, if
none of them fails. Otherwise it stops at the first rule and the first key in view order where one does:
with the failure of that chain, and with a view in which all steps before, and no others, were done. -/
theorem apply_spec (engine : Transform) (view : FlatView) :
    let final := (engine.apply view).result
    final.view.keys = view.keys ∧
    (final.failure = none ↔ ∀ key value, view.get? key = some value →
      ∃ result, composed engine.rules key value = .ok result) ∧
    (final.failure = none → ∀ key value, view.get? key = some value →
      ∃ result, composed engine.rules key value = .ok result ∧ final.view.get? key = some result) ∧
    ∀ failure, final.failure = some failure → ∃ before rule after done key rest value,
      engine.rules = before ++ rule :: after ∧
      view.keys.filter rule.compiled.pattern.test = done ++ key :: rest ∧ view.get? key = some value ∧
      composed (before ++ [rule]) key value = .error failure ∧
      (∃ step ∈ rule.chain, ∃ complaint, failure = .operatorFailed step.spec.name key complaint) ∧
      ∀ other old, view.get? other = some old →
        ∃ result, composed (if other ∈ done then before ++ [rule] else before) other old = .ok result ∧
          final.view.get? other = some result := by
  obtain ⟨hdone, hfailed⟩ := applyRules_spec engine.rules view
  refine ⟨?_, ⟨?_, ?_⟩, fun h => (hdone h).values, ?_⟩
  · cases h : (applyRules view engine.rules).result.failure with
    | none => exact (hdone h).keys
    | some failure =>
      obtain ⟨before, rule, after, done, key, rest, value, -, -, -, -, hbecomes⟩ := hfailed failure h
      exact hbecomes.keys
  · intro h key value hvalue
    obtain ⟨result, hresult, -⟩ := (hdone h).values key value hvalue
    exact ⟨result, hresult⟩
  · intro hall
    cases h : (applyRules view engine.rules).result.failure with
    | none => exact h
    | some failure =>
      obtain ⟨before, rule, after, done, key, rest, value, hrules, -, hvalue, hfailure, -⟩ := hfailed failure h
      obtain ⟨result, hresult⟩ := hall key value hvalue
      rw [hrules, List.append_cons, composed_append, hfailure] at hresult
      cases hresult
  · intro failure h
    obtain ⟨before, rule, after, done, key, rest, value, hrules, hsplit, hvalue, hfailure, hbecomes⟩ :=
      hfailed failure h
    refine ⟨before, rule, after, done, key, rest, value, hrules, hsplit, hvalue, hfailure, ?_, hbecomes.values⟩
    have hkey : key ∉ done := by
      have hnodup : (done ++ key :: rest).Nodup := hsplit ▸ view.distinct.sublist List.filter_sublist
      intro hmem
      exact (List.nodup_append.1 hnodup).2.2 key hmem key List.mem_cons_self rfl
    obtain ⟨middle, hmiddle, -⟩ := hbecomes.values key value hvalue
    rw [if_neg hkey] at hmiddle
    rw [composed_append, hmiddle] at hfailure
    have hchain : composed [rule] key middle = .error failure := hfailure
    rw [composed_singleton] at hchain
    split at hchain
    · exact operatorFailed_of_foldlM_eq_error hchain
    · cases hchain

end Engine.Transform

end FieldRules
