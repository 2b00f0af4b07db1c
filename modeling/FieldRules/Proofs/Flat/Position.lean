import FieldRules.Proofs.Flat.Captures
import FieldRules.Proofs.Flat.Deflate
import FieldRules.Proofs.Flat.ValueTree
import Mathlib.Tactic.TFAE

/-!
The texts of positions from all sides: what flattening writes for a position, what a wildcard addresses, what is
taken for a position when a value is rebuilt, and what the reader of whole numbers finds. All of them agree on which
texts these are and on the position that each of them stands for.
-/

namespace FieldRules

/-- What is joined to one path can be told from the joined paths. -/
theorem Path.join_right_injective (path separator : String) : Function.Injective (join path · separator) := by
  intro segment other h
  by_cases hpath : path = ""
  · simpa [hpath] using h
  · simpa only [join_of_ne_empty hpath, String.append_right_inj] using h

namespace Json

/-- Flattening writes the segment for a position. -/
structure WritesIndex (position : Nat) (segment : String) : Prop where
  /-- In the flat view of terminals in an array, the array's path and the segment are the key at the position. -/
  key : ∀ (separator path : String) (items : List Json), (∀ item ∈ items, item.isTerminal = true) →
    position < items.length →
      ((Json.array items).flattenBelow path separator).keys[position]? = some (Path.join path segment separator)
  /-- In every array, what stands at the position has its terminals below the array's path and the segment. -/
  below : ∀ (separator path : String) (items : List Json) (item : Json), items[position]? = some item →
    item.terminals separator (Path.join path segment separator) <:+: (Json.array items).terminals separator path

section Array

variable {items : List Json} (hne : items ≠ []) (separator path : String)
include hne

theorem terminals_array :
    (Json.array items).terminals separator path = (Json.array items).parts.flatMap fun part =>
      part.2.terminals separator (Path.join path part.1 separator) :=
  terminals_of_container (by simpa [isTerminal] using hne) separator path

theorem terminals_array_of_terminals (hterminals : ∀ item ∈ items, item.isTerminal = true) :
    (Json.array items).terminals separator path =
      items.zipIdx.map fun entry => (Path.join path (Path.ofIndex entry.2) separator, entry.1) := by
  rw [terminals_array hne, parts, List.flatMap_map, List.map_eq_flatMap]
  refine List.flatMap_congr fun entry hentry => ?_
  exact terminals_of_terminal (hterminals entry.1 (List.fst_mem_of_mem_zipIdx hentry)) _ _

theorem keys_flattenBelow_array (hterminals : ∀ item ∈ items, item.isTerminal = true) :
    ((Json.array items).flattenBelow path separator).keys =
      items.zipIdx.map fun entry => Path.join path (Path.ofIndex entry.2) separator := by
  have hkeys : Assoc.keys ((Json.array items).terminals separator path) =
      items.zipIdx.map fun entry => Path.join path (Path.ofIndex entry.2) separator := by
    rw [terminals_array_of_terminals hne separator path hterminals, Assoc.keys, List.map_map]
    rfl
  have hnodup : (Assoc.keys ((Json.array items).terminals separator path)).Nodup := by
    have hmapped := (nodup_positions items).map (Path.join_right_injective path separator)
    rw [List.map_map] at hmapped
    rw [hkeys]
    exact hmapped
  rw [flattenBelow, OrderedMap.keys, OrderedMap.entries_ofList hnodup, hkeys]

end Array

theorem writesIndex_ofIndex (position : Nat) : WritesIndex position (Path.ofIndex position) := by
  refine ⟨fun separator path items hterminals hlt => ?_, fun separator path items item hitem => ?_⟩
  · have hne : items ≠ [] := List.length_pos_iff.1 (by omega)
    rw [keys_flattenBelow_array hne separator path hterminals]
    simp [hlt]
  · have hne : items ≠ [] := by
      rintro rfl
      cases hitem
    have hpart : (Path.ofIndex position, item) ∈ (Json.array items).parts :=
      mem_parts_array_iff.2 ⟨position, rfl, hitem⟩
    obtain ⟨front, back, hparts⟩ := List.append_of_mem hpart
    rw [terminals_array hne, hparts, List.flatMap_append, List.flatMap_cons, ← List.append_assoc]
    exact List.infix_append _ _ _

/-- What flattening writes for a position is the position's decimal text and nothing else. -/
theorem writesIndex_iff {position : Nat} {segment : String} :
    WritesIndex position segment ↔ segment = Path.ofIndex position := by
  refine ⟨fun h => ?_, fun h => h ▸ writesIndex_ofIndex position⟩
  -- Any array that is long enough shows which of two segments is written.
  have hlt : position < (List.replicate (position + 1) Json.null).length := by simp
  have hterminals : ∀ item ∈ List.replicate (position + 1) Json.null, item.isTerminal = true := by simp [isTerminal]
  have hkey := h.key "" "" _ hterminals hlt
  rw [(writesIndex_ofIndex position).key "" "" _ hterminals hlt] at hkey
  exact (Path.join_right_injective "" "" (Option.some.inj hkey)).symm

end Json

section Wildcard

variable {separator segment : String} {p : Pattern}

/-- An asterisk is one segment, unless it is the separator: then it has an empty segment on either side. -/
theorem Path.segments_star (hsep : separator ≠ "") (hstar : separator ≠ "*") : segments separator "*" = ["*"] := by
  have hbegins : ¬ separator.toList <+: ['*'] := by
    rw [List.prefix_cons_iff]
    rintro (hnil | ⟨rest, hrest, hprefix⟩)
    · exact toList_ne_nil hsep hnil
    · rw [List.prefix_nil] at hprefix
      subst hprefix
      exact hstar (String.toList_inj.1 hrest)
  have hcut : cut separator.toList 0 ['*'] = [['*']] := by
    rw [cut_cons_of_not_begins hbegins]
    rfl
  exact congrArg (List.map String.ofList) hcut

namespace Pattern

theorem segments_of_compile_star (hstar : separator ≠ "*") (hp : compile "*" separator = .ok p) :
    Path.segments p.separator p.text = ["*"] := by
  obtain ⟨htext, rfl⟩ := compile_eq_ok_iff.1 hp
  rw [htext]
  exact Path.segments_star (by simpa using p.separator_ne_empty) hstar

/-- A wildcard on its own addresses the texts of positions. -/
theorem test_star_iff (hstar : separator ≠ "*") (hp : compile "*" separator = .ok p) :
    p.test segment = true ↔ Path.isIndex segment = true := by
  rw [test_iff_exists_parts, segments_of_compile_star hstar hp]
  constructor
  · rintro ⟨parts, hparts, rfl⟩
    obtain ⟨part, rest, hpart, hrest, rfl⟩ := List.forall₂_cons_left_iff.1 hparts
    cases hrest
    simpa [Admits, Path.ofSegments] using hpart
  · intro hindex
    exact ⟨[segment], .cons (by simpa [Admits] using hindex) .nil, by simp [Path.ofSegments]⟩

/-- What a wildcard on its own stands for is the number that is read from the text. -/
theorem captures?_star (hstar : separator ≠ "*") (hp : compile "*" separator = .ok p) (htest : p.test segment = true) :
    p.captures? segment = (Numeral.word? segment.toList).map fun n => [n] := by
  obtain ⟨positions, ⟨hfits, hkey⟩, hcaptures⟩ := captures?_of_test htest
  rw [segments_of_compile_star hstar hp] at hfits hkey
  obtain ⟨n, rest, rfl, hrest⟩ := fits_star_cons_iff.1 hfits
  obtain rfl : rest = [] := List.length_eq_zero_iff.1 hrest
  rw [written_star_cons, written] at hkey
  obtain rfl : Path.ofIndex n = segment := by simpa [Path.ofSegments] using hkey
  simp only [hcaptures, Numeral.word?_ofIndex, List.forall_mem_singleton]
  split <;> rfl

end Pattern

end Wildcard

namespace FlatView

variable {separator : String} {view : FlatView} {w : Json}

/-- What a view says behind a path and a segment stands in a slot of the array at the path. -/
def InSlot (separator : String) (view : FlatView) (w : Json) (path : List String) (segment : String) (slot : Nat) :
    Prop :=
  ∃ items item, w.follow? path = some (.array items) ∧ items[slot]? = some item ∧
    ∀ rest value, view.content separator (path ++ segment :: rest) value → item.follow? rest = some value

/-- A view with a value has no empty key beside one that holds a position. -/
theorem not_mem_keys_of_continues_ofIndex (hsep : separator ≠ "") (h : view.deflate separator = .ok w)
    {path : List String} {n : Nat} (hcontinues : (view.content separator).Continues path (Path.ofIndex n)) :
    "" ∉ view.keys := by
  rcases (deflate_eq_ok_iff hsep).1 h with hentries | ⟨hroot, -⟩
  · obtain ⟨rest, value, key, hmem, hsegments⟩ := hcontinues
    obtain ⟨rfl, -⟩ : key = "" ∧ value = w := by simpa [hentries] using hmem
    have hempty : Path.ofIndex n ∈ [""] := by
      rw [← Path.segments_empty separator, hsegments]
      simp
    exact absurd (List.mem_singleton.1 hempty) (Path.ofIndex_ne_empty n)
  · exact hroot

/-- What a view says behind the text of a position stands in the slot of that number. -/
theorem inSlot_ofIndex (h : view.deflate separator = .ok w) {path : List String} {n : Nat}
    (hcontinues : (view.content separator).Continues path (Path.ofIndex n)) :
    view.InSlot separator w path (Path.ofIndex n) n := by
  have hsep : separator ≠ "" := by
    rintro rfl
    simp [deflate] at h
  have hcarries := carries_of_deflate_eq_ok hsep (not_mem_keys_of_continues_ofIndex hsep h hcontinues) h
  obtain ⟨items, last, hitems, hlength, -, hbound, -⟩ := hcarries.array path ⟨n, hcontinues⟩
  have hle := hbound n hcontinues
  have hitem : items[n]? = some items[n] := List.getElem?_eq_getElem (by omega)
  refine ⟨items, _, hitems, hitem, fun rest value hvalue => ?_⟩
  simpa [Json.follow?_append, Json.follow?_cons, hitems, hitem] using hcarries.value _ value hvalue

end FlatView

namespace Path

/-- A segment is taken for a position exactly if a wildcard on its own addresses it, whatever the separator unless that
is the asterisk, and exactly if flattening writes it for a position. There is only one such position, and the segment is
its decimal text. The number is read from the segment if it fits 64 bits, where a wildcard is resolved and where a value
is rebuilt; and in the arrays of such a value it is the slot of what the keys hold behind the segment, so that different
segments have different slots. -/
theorem index_spec (segment : String) :
    (∀ separator, separator ≠ "*" →
      ((∃ p, Pattern.compile "*" separator = .ok p) ↔ separator ≠ "") ∧
      ∀ p, Pattern.compile "*" separator = .ok p →
        [isIndex segment = true, p.test segment = true, ∃ n, Json.WritesIndex n segment].TFAE ∧
        (p.test segment = true → p.captures? segment = (Numeral.word? segment.toList).map fun n => [n])) ∧
    ∀ n, Json.WritesIndex n segment →
      segment = toString n ∧ (∀ m, Json.WritesIndex m segment → m = n) ∧
      Numeral.word? segment.toList = (if n < 2 ^ 64 then some n else none) ∧
      (∀ separator path, PathTree.position separator path segment = if n ≤ PathTree.maxIndex then .ok n
        else .error (.indexOutOfRange (join path segment separator) segment)) ∧
      ∀ other m, Json.WritesIndex m other → other ≠ segment → m ≠ n ∧
        ∀ separator (view : FlatView) w path, view.deflate separator = .ok w →
          (view.content separator).Continues path segment → (view.content separator).Continues path other →
          view.InSlot separator w path segment n ∧ view.InSlot separator w path other m := by
  refine ⟨fun separator hstar => ⟨⟨?_, Pattern.exists_compile_eq_ok (by decide)⟩, fun p hp => ⟨?_, ?_⟩⟩, ?_⟩
  · rintro ⟨p, hp⟩
    obtain ⟨-, rfl⟩ := Pattern.compile_eq_ok_iff.1 hp
    simpa using p.separator_ne_empty
  · tfae_have 1 ↔ 2 := (Pattern.test_star_iff hstar hp).symm
    tfae_have 1 ↔ 3 := by simp only [isIndex_iff, Json.writesIndex_iff]
    tfae_finish
  · exact Pattern.captures?_star hstar hp
  · simp only [Json.writesIndex_iff]
    rintro n rfl
    refine ⟨rfl, fun m hm => (ofIndex_inj.1 hm).symm, Numeral.word?_ofIndex n,
      fun separator path => PathTree.position_ofIndex separator path n, ?_⟩
    rintro _ m rfl hne
    refine ⟨mt (congrArg ofIndex) hne, fun separator view w path hdeflate hsegment hother => ?_⟩
    exact ⟨FlatView.inSlot_ofIndex hdeflate hsegment, FlatView.inSlot_ofIndex hdeflate hother⟩

/-- A position beyond 64 bits, under a separator that its text begins with, and two positions of one array of which
the one with the shorter text comes later. -/
theorem index_spec_beyond_word :
    let large := "18446744073709551616"
    let view : FlatView := .ofList [("a.10", .bool true), ("a.2", .string "x")]
    ("1" : String) ≠ "*" ∧
      (∃ p, Pattern.compile "*" "1" = .ok p ∧ p.test large = true ∧ p.captures? large = none) ∧
      Json.WritesIndex 18446744073709551616 large ∧ Numeral.word? large.toList = none ∧
      ∃ w, view.deflate "." = .ok w ∧ view.InSlot "." w ["a"] "10" 10 ∧ view.InSlot "." w ["a"] "2" 2 := by
  intro large view
  have hstar : ("1" : String) ≠ "*" := by decide
  have hlarge : Json.WritesIndex 18446744073709551616 large := Json.writesIndex_iff.2 (by decide)
  obtain ⟨hwildcard, hposition⟩ := index_spec large
  have hword : Numeral.word? large.toList = none := by
    rw [(hposition _ hlarge).2.2.1]
    decide
  obtain ⟨p, hp⟩ := (hwildcard "1" hstar).1.2 (by decide)
  obtain ⟨hnotions, hcaptures⟩ := (hwildcard "1" hstar).2 p hp
  have hwritten : (∃ n, Json.WritesIndex n large) ↔ p.test large = true := hnotions.out 2 1
  have htest := hwritten.1 ⟨_, hlarge⟩
  refine ⟨hstar, ⟨p, hp, htest, by rw [hcaptures htest, hword]; rfl⟩, hlarge, hword, ?_⟩
  have hten : Json.WritesIndex 10 "10" := Json.writesIndex_iff.2 (by decide)
  have htwo : Json.WritesIndex 2 "2" := Json.writesIndex_iff.2 (by decide)
  obtain ⟨-, hslots⟩ := ((index_spec "10").2 10 hten).2.2.2.2 "2" 2 htwo (by decide)
  have hdeflate : view.deflate "." = .ok (.object [("a", .array
      (.replicate 2 .null ++ .string "x" :: (.replicate 7 .null ++ [.bool true])))]) := by rfl
  refine ⟨_, hdeflate, hslots "." view _ ["a"] hdeflate ?_ ?_⟩
  · exact ⟨[], .bool true, "a.10", by decide, by decide⟩
  · exact ⟨[], .string "x", "a.2", by decide, by decide⟩

end Path

end FieldRules
