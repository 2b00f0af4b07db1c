/-!
Punycode: texts in any script written with ASCII letters, digits and hyphens.

The ASCII characters come first. Behind the last hyphen each other character is a number in base 36
with the least digit first: how far it lies behind the one before, counted over all places and all
code points. The digit that ends a number depends on a bias that adapts to the sizes seen so far.
-/

namespace FieldRules.Web.Punycode

def digitChar (d : Nat) : Char := if d < 26 then Char.ofNat (97 + d) else Char.ofNat (22 + d)

def digitValue? (c : Char) : Option Nat :=
  if 'a' ≤ c ∧ c ≤ 'z' then some (c.toNat - 97)
  else if 'A' ≤ c ∧ c ≤ 'Z' then some (c.toNat - 65)
  else if '0' ≤ c ∧ c ≤ '9' then some (c.toNat - 22)
  else none

/-- A digit below the threshold ends a number; `k` is 36 times the digit's place from one on. -/
def threshold (k bias : Nat) : Nat :=
  if k ≤ bias then 1 else if bias + 26 ≤ k then 26 else k - bias

theorem threshold_bounds (k bias : Nat) : 1 ≤ threshold k bias ∧ threshold k bias ≤ 26 := by
  unfold threshold
  split
  · omega
  · split <;> omega

/-- Scales a distance down, and counts 36 for each division. -/
def scaleDown (delta k : Nat) : Nat × Nat :=
  if 455 < delta then scaleDown (delta / 35) (k + 36) else (delta, k)
termination_by delta

/-- The bias after a distance, when so many characters are known. -/
def adapt (delta count : Nat) (first : Bool) : Nat :=
  let halved := if first then delta / 700 else delta / 2
  let (delta, k) := scaleDown (halved + halved / count) 0
  k + 36 * delta / (delta + 38)

/-- The digits of a number from the place `k` on. -/
def encodeNumber (bias k n : Nat) : List Char :=
  let t := threshold k bias
  if n < t then [digitChar n]
  else digitChar (t + (n - t) % (36 - t)) :: encodeNumber bias (k + 36) ((n - t) / (36 - t))
termination_by n
decreasing_by
  have bounds := threshold_bounds k bias
  have := Nat.div_le_self (n - threshold k bias) (36 - threshold k bias)
  omega

/-- What encoding keeps between characters. -/
structure Encoding where
  written : List Char
  delta : Nat
  bias : Nat
  count : Nat

/-- Passes one character of the text in the round for the code point `n`. -/
def Encoding.pass (basic n : Nat) (state : Encoding) (c : Char) : Encoding :=
  if c.toNat < n then { state with delta := state.delta + 1 }
  else if c.toNat = n then
    { written := state.written ++ encodeNumber state.bias 36 state.delta
      delta := 0
      bias := adapt state.delta (state.count + 1) (state.count == basic)
      count := state.count + 1 }
  else state

/-- One round over the text for each code point, in ascending order, from `start` on. -/
def encodeRounds (text : List Char) (basic start : Nat) (state : Encoding) : List Nat → Encoding
  | [] => state
  | n :: rest =>
    let state := { state with delta := state.delta + (n - start) * (state.count + 1) }
    let state := text.foldl (Encoding.pass basic n) state
    encodeRounds text basic (n + 1) { state with delta := state.delta + 1 } rest

/-- The written form of a text. -/
def encode (text : List Char) : List Char :=
  let basic := text.filter (·.toNat < 128)
  let others := ((text.filter (128 ≤ ·.toNat)).map (·.toNat)).eraseDups.mergeSort
  let start : Encoding := ⟨[], 0, 72, basic.length⟩
  basic ++ (if basic.isEmpty then [] else ['-'])
    ++ (encodeRounds text basic.length 128 start others).written

/-- Reads a number and adds it to `sum`. -/
def decodeNumber? (bias k weight sum : Nat) : List Char → Option (Nat × List Char)
  | [] => none
  | c :: rest => do
    let d ← digitValue? c
    if d < threshold k bias then some (sum + d * weight, rest)
    else decodeNumber? bias (k + 36) (weight * (36 - threshold k bias)) (sum + d * weight) rest

theorem length_decodeNumber? {bias k weight sum n : Nat} {s rest : List Char}
    (h : decodeNumber? bias k weight sum s = some (n, rest)) : rest.length < s.length := by
  induction s generalizing k weight sum with
  | nil => simp [decodeNumber?] at h
  | cons c s ih =>
    simp only [decodeNumber?, Option.bind_eq_bind, Option.bind_eq_some_iff] at h
    obtain ⟨d, -, h⟩ := h
    split at h
    · simp only [Option.some.injEq, Prod.mk.injEq] at h
      simp [h.2]
    · exact Nat.lt_succ_of_lt (ih h)

/-- Inserts the characters that the numbers tell; the next place to look at is `place`. -/
def decodeRounds? (bias n place : Nat) (text : List Char) (s : List Char) : Option (List Char) :=
  if s.isEmpty then some text
  else
    match _h : decodeNumber? bias 36 1 place s with
    | none => none
    | some (sum, rest) =>
      let count := text.length + 1
      let n := n + sum / count
      if n.isValidChar then
        decodeRounds? (adapt (sum - place) count (place == 0)) n (sum % count + 1)
          (text.insertIdx (sum % count) (Char.ofNat n)) rest
      else none
termination_by s.length
decreasing_by exact length_decodeNumber? ‹_›

/-- The text of a written form: the characters before the last hyphen and those told by numbers. A
hyphen with nothing before it separates nothing and is no digit either. -/
def decode? (s : List Char) : Option (List Char) :=
  if s.all (·.toNat < 128) then
    match s.reverse.span (· != '-') with
    | (_, ['-']) => none
    | (numbers, before) => decodeRounds? 72 128 0 (before.drop 1).reverse numbers.reverse
  else none

end FieldRules.Web.Punycode
