import FieldRules.Proofs.Flat.Pattern
import FieldRules.Proofs.Flat.RoundTrip

/-!
The places of a value that a pattern addresses. A pattern is tested against the keys of a flat view, and these
say of each terminal which keys and positions lead to it; so it finds the terminals whose way into the value
agrees with it step by step.
-/

namespace FieldRules.Json

/-- A step into a container: to the member of a key, or to the item at a position. -/
inductive Step where
  | key (name : String)
  | position (n : Nat)
  deriving DecidableEq

/-- What a step adds to a path. -/
def Step.segment : Step → String
  | key name => name
  | position n => Path.ofIndex n

mutual

/-- The terminals of a value in document order, each with the steps that lead to it. -/
def places : Json → List (List Step × Json)
  | .array (item :: rest) => itemPlaces 0 (item :: rest)
  | .object (member :: rest) => memberPlaces (member :: rest)
  | v => [([], v)]

def itemPlaces (position : Nat) : List Json → List (List Step × Json)
  | [] => []
  | item :: rest =>
    (places item).map (fun place => (.position position :: place.1, place.2)) ++
      itemPlaces (position + 1) rest

def memberPlaces : List (String × Json) → List (List Step × Json)
  | [] => []
  | (key, value) :: rest =>
    (places value).map (fun place => (.key key :: place.1, place.2)) ++ memberPlaces rest

end

/-- A segment of a pattern accepts a step: an asterisk accepts every position, and a key if it reads as one;
any other segment accepts its own text as a key, and the position of which it is the text. -/
def Accepts (segment : String) : Step → Prop
  | .key name => if segment = "*" then Path.isIndex name = true else name = segment
  | .position n => segment = "*" ∨ Path.ofIndex n = segment

instance (segment : String) : (step : Step) → Decidable (Accepts segment step)
  | .key _ => inferInstanceAs (Decidable (ite _ _ _))
  | .position _ => inferInstanceAs (Decidable (_ ∨ _))

/-- Whether a step is accepted can be told from what it adds to a path. -/
theorem admits_segment_iff {segment : String} {step : Step} :
    Pattern.Admits segment step.segment ↔ Accepts segment step := by
  cases step with
  | key name => rfl
  | position n =>
    by_cases hsegment : segment = "*"
    · simp [Pattern.Admits, Accepts, Step.segment, hsegment]
    · simp [Pattern.Admits, Accepts, Step.segment, hsegment]

theorem places_of_terminal {v : Json} (hv : v.isTerminal = true) : v.places = [([], v)] := by
  match v with
  | .null | .bool _ | .number _ | .string _ | .array [] | .object [] => simp [places]
  | .array (_ :: _) | .object (_ :: _) => simp [isTerminal] at hv

private theorem itemPlaces_eq (position : Nat) (items : List Json) :
    itemPlaces position items = (items.zipIdx position).flatMap fun entry =>
      entry.1.places.map fun place => (.position entry.2 :: place.1, place.2) := by
  induction items generalizing position with
  | nil => rfl
  | cons item rest ih => rw [itemPlaces, ih, List.zipIdx_cons, List.flatMap_cons]

private theorem memberPlaces_eq (members : List (String × Json)) :
    memberPlaces members = members.flatMap fun member =>
      member.2.places.map fun place => (.key member.1 :: place.1, place.2) := by
  induction members with
  | nil => rfl
  | cons member rest ih => rw [memberPlaces, ih, List.flatMap_cons]

/-- The leaves of a value's tree are its places, with the steps written as segments. -/
theorem leaves_tree (v : Json) :
    v.tree.leaves = v.places.map fun place => (place.1.map Step.segment, place.2) := by
  induction v using places_induction with
  | hterminal v hv =>
    rw [tree_of_terminal hv, places_of_terminal hv]
    rfl
  | harray items hne ih =>
    have hcontainer : (Json.array items).isTerminal = false := by simpa [isTerminal] using hne
    have hplaces : (Json.array items).places = itemPlaces 0 items := by
      obtain ⟨item, rest, rfl⟩ := List.exists_cons_of_ne_nil hne
      rw [places]
    rw [tree_of_container hcontainer, PathTree.leaves, PathTree.childLeaves_eq_flatMap, parts, hplaces,
      itemPlaces_eq, List.map_flatMap, List.map_map, List.flatMap_map]
    refine List.flatMap_congr fun entry hentry => ?_
    simp [ih entry.1 (List.fst_mem_of_mem_zipIdx hentry), PathTree.under, Step.segment, Function.comp_def]
  | hobject members hne ih =>
    have hcontainer : (Json.object members).isTerminal = false := by simpa [isTerminal] using hne
    have hplaces : (Json.object members).places = memberPlaces members := by
      obtain ⟨member, rest, rfl⟩ := List.exists_cons_of_ne_nil hne
      rw [places]
    rw [tree_of_container hcontainer, PathTree.leaves, PathTree.childLeaves_eq_flatMap, parts, hplaces,
      memberPlaces_eq, List.map_flatMap, List.flatMap_map]
    refine List.flatMap_congr fun member hmember => ?_
    simp [ih member hmember, PathTree.under, Step.segment, Function.comp_def]

/-- The path that steps make. -/
def pathOf (separator : String) (steps : List Step) : String :=
  Path.ofSegments separator (steps.map Step.segment)

section FindMatches

variable {separator : String} {v : Json} (hsep : separator ≠ "")
  (hdigit : ∀ c ∈ separator.toList, c.isDigit = false) (hkeys : v.KeysAvoid separator)
  (hroot : ∀ members, v = .object members → "" ∉ Assoc.keys members)

include hsep hdigit hkeys hroot

/-- In a container, the path of a place is that of a leaf and is cut into the segments of the steps. -/
theorem segments_pathOf (hcontainer : v.isTerminal = false) {place : List Step × Json}
    (hplace : place ∈ v.places) :
    Path.descend separator "" (place.1.map Step.segment) = pathOf separator place.1 ∧
      Path.segments separator (pathOf separator place.1) = place.1.map Step.segment := by
  have hleaf : (place.1.map Step.segment, place.2) ∈ v.tree.leaves := by
    rw [leaves_tree]
    exact List.mem_map_of_mem hplace
  obtain ⟨segment, rest, hpath, hne⟩ := exists_cons_of_mem_leaves hcontainer hroot hleaf
  replace hpath : place.1.map Step.segment = segment :: rest := hpath
  have hdescend : Path.descend separator "" (place.1.map Step.segment) = pathOf separator place.1 := by
    rw [pathOf, hpath, Path.descend_cons, Path.join_empty, Path.descend_eq_ofSegments hne]
  exact ⟨hdescend, hdescend ▸ segments_descend_of_mem_leaves hsep hdigit hkeys hcontainer hroot hleaf⟩

theorem descend_steps {place : List Step × Json} (hplace : place ∈ v.places) :
    Path.descend separator "" (place.1.map Step.segment) = pathOf separator place.1 := by
  cases hterminal : v.isTerminal with
  | true =>
    rw [places_of_terminal hterminal, List.mem_singleton] at hplace
    simp [hplace, pathOf, Path.ofSegments]
  | false => exact (segments_pathOf hsep hdigit hkeys hroot hterminal hplace).1

/-- The entries of a flat view are the places of the value. -/
theorem entries_flatten_eq_places (hv : v.WellFormed) :
    (v.flatten separator).entries = v.places.map fun place => (pathOf separator place.1, place.2) := by
  rw [(spelled_of_keysAvoid hsep hdigit hkeys hroot).entries_flatten hv, leaves_tree, List.map_map]
  exact List.map_congr_left fun place hplace =>
    Prod.ext (descend_steps hsep hdigit hkeys hroot hplace) rfl

/-- A pattern addresses the path of a place exactly if its segments accept the steps one by one. -/
theorem test_pathOf_iff {p : Pattern} (hp : p.separator = separator) {place : List Step × Json}
    (hplace : place ∈ v.places) :
    p.test (pathOf separator place.1) = true ↔
      List.Forall₂ Accepts (Path.segments separator p.text) place.1 := by
  subst hp
  cases hterminal : v.isTerminal with
  | true =>
    rw [places_of_terminal hterminal, List.mem_singleton] at hplace
    rw [hplace, List.forall₂_nil_right_iff]
    refine iff_of_false ?_ (Path.segments_ne_nil _ _)
    simp [pathOf, Path.ofSegments, Pattern.test_empty hdigit]
  | false =>
    rw [Pattern.test_iff_forall₂ hdigit, (segments_pathOf hsep hdigit hkeys hroot hterminal hplace).2,
      List.forall₂_map_right_iff]
    simp only [admits_segment_iff]

/-- What a pattern finds in the flat view of a value are the terminals that it addresses in the value itself:
those with as many steps as the pattern has segments, each step accepted by its segment. They are found in
document order and under distinct paths. -/
theorem findMatches_flatten (hv : v.WellFormed) {text : String} (htext : text ≠ "") :
    ∃ p, Pattern.compile text separator = .ok p ∧
      ((v.flatten separator).findMatches p).keys.Nodup ∧
      ((v.flatten separator).findMatches p).entries =
        (v.places.filter fun place => List.Forall₂ Accepts (Path.segments separator text) place.1).map
          fun place => (pathOf separator place.1, place.2) := by
  obtain ⟨p, hp⟩ := Pattern.exists_compile_eq_ok htext hsep
  obtain ⟨rfl, hseparator⟩ := Pattern.compile_eq_ok_iff.1 hp
  refine ⟨p, hp, OrderedMap.distinct _, ?_⟩
  rw [FlatView.entries_findMatches, entries_flatten_eq_places hsep hdigit hkeys hroot hv, List.filter_map]
  congr 1
  refine List.filter_congr fun place hplace => Bool.eq_iff_iff.2 ?_
  rw [decide_eq_true_iff]
  exact test_pathOf_iff hsep hdigit hkeys hroot hseparator hplace

end FindMatches

/-- Wildcards reach through nested arrays, and a key that reads as a position. -/
theorem findMatches_flatten_nested :
    let v : Json := .object [("rows", .array [.array [.null, .bool true], .object [("x", .null)],
      .object [("7", .string "s")], .object []])]
    v.WellFormed ∧ v.KeysAvoid "." ∧ ∃ p, Pattern.compile "rows.*.*" "." = .ok p ∧
      ((v.flatten ".").findMatches p).entries =
        [("rows.0.0", .null), ("rows.0.1", .bool true), ("rows.2.7", .string "s")] := by
  intro v
  have hv : v.WellFormed := by simp [v, WellFormed, WellFormedMembers, WellFormedItems]
  have hterminal {value : Json} (h : value.isTerminal = true) : value.KeysAvoid "." := keysAvoid_of_terminal h
  have hkeys : v.KeysAvoid "." := by
    simpa [v, keysAvoid_object_iff, keysAvoid_array_iff, Path.Avoids] using
      (⟨⟨hterminal rfl, hterminal rfl⟩, hterminal rfl, hterminal rfl⟩ : (_ ∧ _) ∧ _ ∧ _)
  have hroot : ∀ members, v = .object members → "" ∉ Assoc.keys members := by
    intro members heq
    obtain rfl : _ = members := Json.object.inj heq
    simp [Assoc.keys]
  obtain ⟨p, hp, -, hentries⟩ := findMatches_flatten (by decide) (by simp) hkeys hroot hv
    (show ("rows.*.*" : String) ≠ "" by decide)
  exact ⟨hv, hkeys, p, hp, hentries.trans (by decide)⟩

end FieldRules.Json
