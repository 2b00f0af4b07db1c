/-!
The byte form of texts, and texts from bytes that need not be well formed.
-/

namespace FieldRules.Text.Utf8

def encode (s : List Char) : List UInt8 := s.flatMap String.utf8EncodeChar

/-- How many bytes follow a first byte, which of its bits count, and the range of the byte after
it. -/
def shape? (b : Nat) : Option (Nat × Nat × Nat × Nat) :=
  if 0xC2 ≤ b && b ≤ 0xDF then some (1, b - 0xC0, 0x80, 0xBF)
  else if b == 0xE0 then some (2, 0, 0xA0, 0xBF)
  else if b == 0xED then some (2, 0xD, 0x80, 0x9F)
  else if 0xE1 ≤ b && b ≤ 0xEF then some (2, b - 0xE0, 0x80, 0xBF)
  else if b == 0xF0 then some (3, 0, 0x90, 0xBF)
  else if 0xF1 ≤ b && b ≤ 0xF3 then some (3, b - 0xF0, 0x80, 0xBF)
  else if b == 0xF4 then some (3, 4, 0x80, 0x8F)
  else none

/-- Reads `count` more bytes of a character, the next of them between `lo` and `hi`. The rest starts
behind the bytes that can belong to the character. -/
def continued (count value lo hi : Nat) : List UInt8 → Option Char × List UInt8
  | [] => (if count = 0 then some (Char.ofNat value) else none, [])
  | b :: rest =>
    match count with
    | 0 => (some (Char.ofNat value), b :: rest)
    | count + 1 =>
      if lo ≤ b.toNat && b.toNat ≤ hi then
        continued count (value * 64 + (b.toNat - 0x80)) 0x80 0xBF rest
      else (none, b :: rest)

theorem length_continued (count value lo hi : Nat) (s : List UInt8) :
    (continued count value lo hi s).2.length ≤ s.length := by
  induction s generalizing count value lo hi with
  | nil => simp [continued]
  | cons b rest ih =>
    unfold continued
    split
    · simp
    · split
      · exact Nat.le_succ_of_le (ih ..)
      · simp

/-- The characters of a byte sequence; `none` stands where bytes form no character. -/
def decodeEach : List UInt8 → List (Option Char)
  | [] => []
  | b :: rest =>
    if b.toNat < 0x80 then some (Char.ofNat b.toNat) :: decodeEach rest
    else
      match shape? b.toNat with
      | none => none :: decodeEach rest
      | some (count, value, lo, hi) =>
        (continued count value lo hi rest).1 :: decodeEach (continued count value lo hi rest).2
termination_by s => s.length
decreasing_by
  · simp only [List.length_cons]; omega
  · simp only [List.length_cons]; omega
  · exact Nat.lt_succ_of_le (length_continued ..)

/-- The text of well-formed bytes. -/
def decode? (bytes : List UInt8) : Option (List Char) := (decodeEach bytes).mapM id

/-- The text of any bytes, with the replacement character where they are ill formed. -/
def decodeLossy (bytes : List UInt8) : List Char :=
  (decodeEach bytes).map (·.getD (Char.ofNat 0xFFFD))

end FieldRules.Text.Utf8
