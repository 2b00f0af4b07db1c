import FieldRules.Text.Decomposition
import FieldRules.Text.Neighbour

/-!
Composed and decomposed forms of texts.

Two sequences of code points that are canonically equal have one composed form: decompose all
characters, sort the marks behind each base by their class, and compose again from left to right.
-/

namespace FieldRules.Text.Normalize

/-- The first syllable and the counts of the letters that make up the Hangul syllables. -/
def syllableBase : Nat := 0xAC00

def leadBase : Nat := 0x1100

def vowelBase : Nat := 0x1161

def tailBase : Nat := 0x11A7

def leadCount : Nat := 19

def vowelCount : Nat := 21

def tailCount : Nat := 28

def isSyllable (n : Nat) : Bool :=
  syllableBase ≤ n && n < syllableBase + leadCount * vowelCount * tailCount

/-- The letters of a Hangul syllable: a lead, a vowel and perhaps a tail. -/
def syllableParts (n : Nat) : List Nat :=
  let index := n - syllableBase
  let lead := leadBase + index / (vowelCount * tailCount)
  let vowel := vowelBase + index % (vowelCount * tailCount) / tailCount
  let tail := index % tailCount
  if tail = 0 then [lead, vowel] else [lead, vowel, tailBase + tail]

/-- The canonical decomposition of a code point. -/
def canonicalParts (n : Nat) : List Nat :=
  if n < 0xC0 then [n]
  else if isSyllable n then syllableParts n
  else (Decomposition.canonical.lookup n).getD [n]

/-- The decomposition of a code point that also gives up its presentation. -/
def compatibilityParts (n : Nat) : List Nat :=
  if n < 0xA0 then [n]
  else if isSyllable n then syllableParts n
  else ((Decomposition.canonical.lookup n).orElse fun _ =>
    Decomposition.compatibility.lookup n).getD [n]

/-- Puts a mark behind the marks of its own or a lower class that end a reversed sequence. -/
def insertMark (mark : Nat) : List Nat → List Nat
  | [] => [mark]
  | last :: before =>
    if combiningClass mark < combiningClass last then last :: insertMark mark before
    else mark :: last :: before

/-- Sorts each run of marks by class; marks of one class keep their order. -/
def sortMarks (s : List Nat) : List Nat :=
  (s.foldl (fun acc n => if combiningClass n = 0 then n :: acc else insertMark n acc) []).reverse

/-- The character that two characters compose to. -/
def compose? (first second : Nat) : Option Nat :=
  if leadBase ≤ first && first < leadBase + leadCount
      && vowelBase ≤ second && second < vowelBase + vowelCount then
    some (syllableBase + ((first - leadBase) * vowelCount + (second - vowelBase)) * tailCount)
  else if isSyllable first && (first - syllableBase) % tailCount == 0
      && tailBase < second && second < tailBase + tailCount then
    some (first + (second - tailBase))
  else
    let image := canonicalParts first ++ [second]
    (Decomposition.canonical.find? fun entry =>
      entry.2 == image && !Decomposition.excluded.contains entry.1).map Prod.fst

/-- Composes what follows the base `base`; `held` are the marks since then, the last one first, that
did not compose with it. A mark composes unless one of its own class or a higher one is in
between. -/
def composeAfter (base : Nat) (held : List Nat) : List Nat → List Nat
  | [] => base :: held.reverse
  | n :: rest =>
    let adjacent := match held with
      | [] => true
      | last :: _ => combiningClass last < combiningClass n
    match (if adjacent then compose? base n else none) with
    | some composed => composeAfter composed held rest
    | none =>
      if combiningClass n = 0 then base :: held.reverse ++ composeAfter n [] rest
      else composeAfter base (n :: held) rest

/-- Composes a decomposed sequence. Marks before the first base stay as they are. -/
def composeAll : List Nat → List Nat
  | [] => []
  | n :: rest => if combiningClass n = 0 then composeAfter n [] rest else n :: composeAll rest

/-- The composed form. -/
def composed (s : List Nat) : List Nat := composeAll (sortMarks (s.flatMap canonicalParts))

end FieldRules.Text.Normalize
