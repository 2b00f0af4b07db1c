import FieldRules.Text.CodePoints
import FieldRules.Text.Category
import FieldRules.Text.Property

/-!
Regular expressions, and the places of a text that they lead to.

A set of places is a number: place `i`, the one behind `i` characters, is in it when bit `i` is set.
An expression takes the places where a match may begin to those where it may end.
-/

namespace FieldRules

namespace Regex

/-- Conditions on a place of the text. The ASCII variants know only ASCII word characters. -/
inductive Anchor where
  | textStart | textEnd
  | lineStart | lineEnd
  /-- As `lineStart` and `lineEnd`, where a carriage return and the pair of both end lines too. -/
  | lineStartAnyBreak | lineEndAnyBreak
  | wordBoundary (ascii : Bool) | notWordBoundary (ascii : Bool)
  | wordStart (ascii : Bool) | wordEnd (ascii : Bool)
  | wordStartHalf (ascii : Bool) | wordEndHalf (ascii : Bool)
  deriving DecidableEq, Repr

end Regex

/-- A regular expression. -/
inductive Regex where
  | empty
  /-- One character of the set. -/
  | chars (set : CodePointSet)
  | anchor (condition : Regex.Anchor)
  | seq (first second : Regex)
  | either (left right : Regex)
  /-- From `least` to `most` times the inner expression; no bound when `most` is missing. -/
  | times (inner : Regex) (least : Nat) (most : Option Nat)
  deriving Inhabited

namespace Regex

def seqAll (parts : List Regex) : Regex := parts.foldr .seq .empty

/-- The word characters of all scripts: letters, marks, decimal digits, connectors and joiners. -/
def wordSet : CodePointSet :=
  .ofRanges (Text.Property.alphabetic.ranges ++ (0x200C, 0x200D) ::
    (Text.Category.setWhere fun c => (c matches .mn | .mc | .me | .nd | .pc)).ranges)

def asciiWordSet : CodePointSet := ⟨[(48, 57), (65, 90), (95, 95), (97, 122)]⟩

/-- What an anchor sees of a place: the characters before and behind it, if there are any. -/
structure Place where
  before : Option Char
  after : Option Char

namespace Anchor

def isWord (ascii : Bool) : Option Char → Bool
  | none => false
  | some c => (if ascii then asciiWordSet else wordSet).contains c.toNat

def holds (condition : Anchor) (place : Place) : Bool :=
  match condition with
  | .textStart => place.before.isNone
  | .textEnd => place.after.isNone
  | .lineStart => place.before.all (· == '\n')
  | .lineEnd => place.after.all (· == '\n')
  | .lineStartAnyBreak =>
    place.before.all fun c => c == '\n' || (c == '\r' && place.after != some '\n')
  | .lineEndAnyBreak =>
    place.after.all fun c => c == '\r' || (c == '\n' && place.before != some '\r')
  | .wordBoundary ascii => isWord ascii place.before != isWord ascii place.after
  | .notWordBoundary ascii => isWord ascii place.before == isWord ascii place.after
  | .wordStart ascii => !isWord ascii place.before && isWord ascii place.after
  | .wordEnd ascii => isWord ascii place.before && !isWord ascii place.after
  | .wordStartHalf ascii => !isWord ascii place.before
  | .wordEndHalf ascii => !isWord ascii place.after

end Anchor

/-- The places of a text, in order. -/
def places (before : Option Char) : List Char → List Place
  | [] => [⟨before, none⟩]
  | c :: rest => ⟨before, some c⟩ :: places (some c) rest

/-- The number whose bits say which of the items satisfy the predicate. -/
def mask {α : Type} (p : α → Bool) (items : List α) : Nat :=
  items.foldr (fun item bits => 2 * bits + (p item).toNat) 0

/-- An expression prepared for one text: what it needs of the characters as sets of places. -/
inductive Route where
  /-- Stays at the places of the set. -/
  | stay (at_ : Nat)
  /-- Steps over one character from the places of the set. -/
  | move (passed : Nat)
  | seq (first second : Route)
  | either (left right : Route)
  | times (inner : Route) (least : Nat) (most : Option Nat)

def route (text : List Char) : Regex → Route
  | .empty => .stay (1 <<< (text.length + 1) - 1)
  | .chars set => .move (mask (fun c => set.contains c.toNat) text)
  | .anchor condition => .stay (mask condition.holds (places none text))
  | .seq first second => .seq (first.route text) (second.route text)
  | .either left right => .either (left.route text) (right.route text)
  | .times inner least most => .times (inner.route text) least most

namespace Route

/-- Applies a step so many times; a set that no longer changes is kept. -/
def iterate (step : Nat → Nat) (count : Nat) (set : Nat) : Nat :=
  match count with
  | 0 => set
  | count + 1 =>
    let next := step set
    if next = set then set else iterate step count next

/-- The set with all that up to so many steps lead to. -/
def spread (step : Nat → Nat) (count : Nat) (set : Nat) : Nat :=
  iterate (fun reached => reached ||| step reached) count set

/-- The places where a match that begins at one of the set may end. In a text of `length`
characters no more than `length + 1` steps lead to new places. -/
def reach (length : Nat) : Route → Nat → Nat
  | .stay places, set => set &&& places
  | .move places, set => (set &&& places) <<< 1
  | .seq first second, set => second.reach length (first.reach length set)
  | .either left right, set => left.reach length set ||| right.reach length set
  | .times inner least most, set =>
    let begun := iterate (inner.reach length) least set
    match most with
    | none => spread (inner.reach length) (length + 1) begun
    | some most => spread (inner.reach length) (most - least) begun

end Route

/-- The expression matches somewhere in the text. -/
def isMatch (r : Regex) (text : String) : Bool :=
  let chars := text.toList
  (r.route chars).reach chars.length (1 <<< (chars.length + 1) - 1) != 0

end Regex

end FieldRules
