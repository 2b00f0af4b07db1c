import FieldRules.Text.CodePointMap

/-!
Attributes of code points that decide how they combine with their neighbours: the class that
orders marks, the direction of writing, and the way cursive letters join.
-/

namespace FieldRules.Text

/-- The combining class: zero for characters that marks do not move across. -/
@[irreducible] def combiningClasses : CodePointMap Nat := .ofRuns id
  "768 0 21 230 1 232 4 220 1 232 1 216 5 220 2 202 4 220 2 202 11 220 5 1 4 220 8 230 1 240 1
   230 3 220 3 230 2 220 1 0 3 230 4 220 1 230 1 232 2 220 1 230 1 233 2 234 1 233 2 234 1 233
   13 230 275 0 5 230 265 0 1 220 4 230 1 220 3 230 1 222 1 220 6 230 6 220 2 230 1 220 2 230 1
   222 1 228 1 230 1 10 1 11 1 12 1 13 1 14 1 15 1 16 1 17 1 18 2 19 1 20 1 21 1 22 1 0 1 23 1
   0 1 24 1 25 1 0 1 230 1 220 1 0 1 18 72 0 8 230 1 30 1 31 1 32 48 0 1 27 1 28 1 29 1 30 1 31
   1 32 1 33 1 34 2 230 2 220 5 230 1 220 2 230 1 220 16 0 1 35 101 0 7 230 2 0 4 230 1 220 1
   230 2 0 2 230 1 0 1 220 2 230 1 220 35 0 1 36 30 0 1 230 1 220 2 230 1 220 2 230 3 220 1 230
   2 220 1 230 1 220 3 230 1 220 1 230 1 220 1 230 1 220 1 230 1 220 2 230 160 0 7 230 1 220 1
   230 9 0 1 220 24 0 4 230 1 0 9 230 1 0 3 230 1 0 5 230 43 0 3 220 60 0 1 230 3 220 4 230 42
   0 5 230 5 220 14 230 1 0 1 220 2 230 1 220 2 230 1 220 3 230 3 220 1 27 1 28 1 29 3 230 1
   220 2 230 2 220 5 230 60 0 1 7 16 0 1 9 3 0 1 230 1 220 2 230 103 0 1 7 16 0 1 9 48 0 1 230
   61 0 1 7 16 0 1 9 110 0 1 7 16 0 1 9 110 0 1 7 16 0 1 9 127 0 1 9 110 0 1 7 16 0 1 9 7 0 1
   84 1 91 101 0 1 7 16 0 1 9 109 0 2 9 16 0 1 9 124 0 1 9 109 0 2 103 1 9 13 0 4 107 108 0 2
   118 1 9 13 0 4 122 76 0 2 220 27 0 1 220 1 0 1 220 1 0 1 216 55 0 1 129 1 130 1 0 1 132 5 0
   4 130 2 0 1 130 1 0 2 230 1 9 1 0 2 230 62 0 1 220 112 0 1 7 1 0 2 9 82 0 1 220 719 0 3 230
   948 0 2 9 30 0 1 9 157 0 1 9 10 0 1 230 203 0 1 228 143 0 1 222 1 230 1 220 219 0 1 230 1
   220 71 0 1 9 20 0 8 230 2 0 1 220 48 0 5 230 6 220 2 230 1 220 1 0 2 220 2 230 2 220 5 230 1
   220 4 230 101 0 1 7 15 0 1 9 38 0 1 230 1 220 7 230 54 0 2 9 58 0 1 7 11 0 2 9 67 0 1 7 152
   0 3 230 1 0 1 1 5 220 2 230 4 220 1 230 1 0 7 1 4 0 1 220 6 0 1 230 3 0 2 230 198 0 2 230 1
   220 7 230 1 220 2 230 1 234 1 214 1 220 1 202 37 230 1 232 2 228 1 220 1 218 1 230 1 233 1
   220 1 230 1 220 720 0 2 230 2 1 4 230 3 1 2 230 4 0 1 230 3 0 2 1 1 230 1 220 1 230 2 1 4
   220 1 230 3070 0 3 230 141 0 1 9 96 0 32 230 554 0 1 218 1 228 1 232 1 222 2 224 105 0 2 8
   30164 0 1 230 4 0 10 230 32 0 2 230 80 0 2 230 276 0 1 9 37 0 1 9 151 0 1 9 27 0 18 230 57 0
   3 220 37 0 1 9 95 0 1 7 12 0 1 9 239 0 1 230 1 0 2 230 1 220 2 0 2 230 5 0 2 230 1 0 1 230
   52 0 1 9 246 0 1 9 20272 0 1 26 769 0 7 230 7 220 2 230 973 0 1 220 226 0 1 220 149 0 5 230
   1682 0 1 220 1 0 1 230 40 0 1 230 1 1 1 220 4 0 1 9 165 0 1 230 1 220 573 0 4 230 387 0 2
   230 80 0 3 220 70 0 2 220 3 230 1 220 1 230 4 220 49 0 1 230 1 220 1 230 1 220 192 0 1 9 41
   0 1 9 14 0 1 9 57 0 1 9 1 7 69 0 3 230 48 0 2 9 62 0 1 7 76 0 1 9 9 0 1 7 106 0 1 9 1 7 178
   0 1 7 1 9 80 0 2 7 16 0 1 9 24 0 7 230 3 0 5 230 205 0 1 9 3 0 1 7 23 0 1 230 99 0 1 9 1 7
   251 0 1 9 1 7 126 0 1 9 118 0 1 9 1 7 115 0 1 9 269 0 1 9 1 7 258 0 2 9 4 0 1 7 156 0 1 9 83
   0 1 9 18 0 1 9 81 0 1 9 421 0 1 9 258 0 1 7 1 0 2 9 81 0 1 9 425 0 2 9 19373 0 5 1 59 0 7
   230 1209 0 2 6 19628 0 1 1 5318 0 2 216 3 1 3 0 1 226 5 216 8 0 8 220 2 0 5 230 2 220 30 0 4
   230 148 0 3 230 3515 0 7 230 1 0 17 230 2 0 7 230 1 0 2 230 1 0 5 230 100 0 1 230 160 0 7
   230 375 0 1 230 61 0 4 230 508 0 2 232 1 220 1 230 992 0 7 220 109 0 6 230 1 7 988853 0"

def combiningClass (n : Nat) : Nat := (combiningClasses.find? n).getD 0

/-- The direction that a character gives to a text, as far as names of hosts tell them apart. -/
inductive Direction where
  | leftToRight
  | rightToLeft
  | arabicNumber
  | europeanNumber
  | neutral
  | mark
  | formatting
  deriving DecidableEq, Repr

/-- The direction that a table abbreviates by a number. -/
def Direction.ofCode : Nat → Direction
  | 0 => .leftToRight
  | 1 => .rightToLeft
  | 2 => .arabicNumber
  | 3 => .europeanNumber
  | 4 => .neutral
  | 5 => .mark
  | _ => .formatting

@[irreducible] def directions : CodePointMap Direction := .ofRuns Direction.ofCode
  "9 4 5 6 14 4 5 6 15 4 10 3 7 4 26 0 6 4 26 0 10 4 1 6 36 4 1 0 7 4 2 3 1 4 1 0 3 4 1 3 1 0 5
   4 23 0 1 4 31 0 1 4 449 0 2 4 7 0 14 4 2 0 14 4 5 0 9 4 1 0 17 4 112 5 4 0 2 4 8 0 1 4 5 0 2
   4 1 0 1 4 110 0 1 4 140 0 7 5 256 0 1 4 2 0 3 4 1 1 45 5 1 1 1 5 1 1 2 5 1 1 2 5 1 1 1 5 56
   1 6 2 2 4 1 1 2 4 1 1 1 4 1 1 2 4 11 5 48 1 21 5 10 2 1 4 2 2 3 1 1 5 101 1 7 5 1 2 1 4 6 5
   2 1 2 5 1 4 4 5 2 1 10 3 23 1 1 5 30 1 27 5 91 1 11 5 58 1 9 5 2 1 4 4 3 1 1 5 24 1 4 5 1 1
   9 5 1 1 3 5 1 1 5 5 43 1 3 5 52 1 2 2 6 1 8 5 42 1 24 5 1 2 32 5 55 0 1 5 1 0 1 5 4 0 8 5 4
   0 1 5 3 0 7 5 10 0 2 5 29 0 1 5 58 0 1 5 4 0 4 5 8 0 1 5 20 0 2 5 14 0 2 4 7 0 1 4 2 0 1 5 2
   0 2 5 57 0 1 5 4 0 2 5 4 0 2 5 2 0 3 5 3 0 1 5 30 0 2 5 3 0 1 5 11 0 2 5 57 0 1 5 4 0 5 5 1
   0 2 5 4 0 1 5 20 0 2 5 13 0 1 4 8 0 6 5 1 0 1 5 58 0 1 5 2 0 1 5 1 0 4 5 8 0 1 5 7 0 2 5 11
   0 2 5 30 0 1 5 61 0 1 5 12 0 1 5 37 0 8 4 5 0 1 5 3 0 1 5 55 0 1 5 1 0 3 5 5 0 3 5 1 0 4 5 7
   0 2 5 11 0 2 5 20 0 7 4 2 0 1 5 58 0 1 5 15 0 2 5 20 0 2 5 28 0 2 5 57 0 2 5 4 0 4 5 8 0 1 5
   20 0 2 5 29 0 1 5 72 0 1 5 7 0 3 5 1 0 1 5 90 0 1 5 2 0 7 5 4 0 1 4 7 0 8 5 98 0 1 5 2 0 9 5
   11 0 7 5 73 0 2 5 27 0 1 5 1 0 1 5 1 0 1 5 4 4 51 0 14 5 1 0 5 5 1 0 2 5 5 0 11 5 1 0 36 5 9
   0 1 5 102 0 4 5 1 0 6 5 1 0 2 5 2 0 2 5 25 0 2 5 4 0 3 5 16 0 4 5 13 0 1 5 2 0 2 5 6 0 1 5
   15 0 1 5 703 0 3 5 48 0 10 4 102 0 1 4 639 0 1 6 26 0 2 4 117 0 3 5 29 0 2 5 30 0 2 5 30 0 2
   5 64 0 2 5 1 0 7 5 8 0 1 5 2 0 11 5 7 0 1 4 1 0 1 5 18 0 10 4 6 0 11 4 3 5 1 4 1 5 117 0 2 5
   34 0 1 5 118 0 3 5 4 0 2 5 9 0 1 5 6 0 3 5 4 0 1 4 3 0 2 4 152 0 34 4 23 0 2 5 2 0 1 5 58 0
   1 5 1 0 7 5 1 0 1 5 1 0 1 5 2 0 8 5 6 0 10 5 2 0 1 5 48 0 31 5 49 0 4 5 48 0 1 5 1 0 5 5 1 0
   1 5 5 0 1 5 40 0 9 5 12 0 2 5 32 0 4 5 2 0 2 5 1 0 3 5 56 0 1 5 1 0 2 5 3 0 1 5 1 0 3 5 58 0
   8 5 2 0 2 5 152 0 3 5 1 0 13 5 1 0 7 5 4 0 1 5 6 0 1 5 3 0 2 5 198 0 64 5 445 0 1 4 1 0 3 4
   11 0 3 4 13 0 3 4 13 0 3 4 13 0 2 4 1 0 11 6 3 4 1 0 1 1 24 4 7 6 48 4 1 6 6 4 4 6 6 4 1 3 3
   0 6 3 5 4 1 0 10 3 5 4 17 0 48 4 33 5 15 0 2 4 1 0 4 4 1 0 2 4 10 0 1 4 1 0 3 4 5 0 6 4 1 0
   1 4 1 0 1 4 1 0 1 4 4 0 1 4 11 0 2 4 4 0 5 4 5 0 4 4 2 0 16 4 41 0 3 4 4 0 422 4 69 0 26 4 1
   0 145 4 25 0 11 4 21 0 40 4 20 3 78 0 450 4 1 0 339 4 256 0 628 4 2 0 32 4 1 0 105 4 229 0 6
   4 4 0 3 5 7 0 7 4 127 0 1 5 96 0 32 5 94 4 34 0 26 4 1 0 89 4 12 0 214 4 26 0 12 4 4 0 1 6 4
   4 3 0 25 4 9 0 4 5 2 0 1 4 5 0 2 4 5 0 3 4 89 0 2 5 2 4 3 0 1 4 90 0 1 4 196 0 36 4 57 0 2 4
   49 0 16 4 28 0 3 4 50 0 15 4 12 0 4 4 167 0 4 4 99 0 2 4 31 0 1 4 6592 0 64 4 22160 0 55 4
   326 0 3 4 95 0 4 5 1 4 10 5 2 4 30 0 2 5 80 0 2 5 14 0 34 4 102 0 1 4 121 0 1 5 3 0 1 5 4 0
   1 5 25 0 2 5 1 0 4 4 1 5 11 0 2 4 58 0 4 4 76 0 2 5 26 0 18 5 13 0 1 5 38 0 8 5 25 0 11 5 46
   0 3 5 48 0 1 5 2 0 4 5 2 0 2 5 39 0 1 5 67 0 6 5 2 0 2 5 2 0 2 5 12 0 1 5 8 0 1 5 47 0 1 5
   51 0 1 5 1 0 3 5 2 0 2 5 5 0 2 5 1 0 1 5 42 0 2 5 8 0 1 5 115 0 2 4 121 0 1 5 2 0 1 5 4 0 1
   5 20271 0 1 1 1 5 10 1 1 4 532 1 18 4 127 1 33 4 13 1 3 4 16 5 10 4 6 0 16 5 35 4 1 0 19 4 1
   0 4 4 4 0 143 1 1 4 1 0 15 4 10 3 7 4 26 0 6 4 26 0 11 4 122 0 7 4 1 0 7 4 1 0 16 4 257 0 1
   4 62 0 77 4 3 0 13 4 3 0 1 4 92 0 1 5 226 0 1 5 27 3 122 0 5 5 1157 0 287 1 1 4 225 1 3 5 1
   1 2 5 5 1 4 5 40 1 3 5 4 1 1 5 165 1 2 5 82 1 7 4 484 1 4 5 8 1 10 2 294 1 31 2 44 1 2 5 80
   1 3 5 70 1 11 5 49 1 4 5 122 1 1 0 1 5 54 0 15 5 11 0 20 4 10 0 1 5 2 0 2 5 10 0 3 5 49 0 4
   5 2 0 2 5 7 0 1 5 61 0 3 5 36 0 5 5 1 0 8 5 62 0 1 5 12 0 2 5 52 0 9 5 10 0 4 5 2 0 1 5 95 0
   3 5 2 0 1 5 1 0 2 5 6 0 1 5 2 0 1 5 157 0 1 5 3 0 8 5 21 0 2 5 57 0 2 5 3 0 1 5 37 0 7 5 3 0
   5 5 195 0 8 5 2 0 3 5 1 0 1 5 23 0 1 5 84 0 6 5 1 0 1 5 4 0 2 5 1 0 2 5 238 0 4 5 6 0 2 5 1
   0 2 5 27 0 2 5 85 0 8 5 2 0 1 5 1 0 2 5 31 0 13 4 62 0 1 5 1 0 1 5 2 0 6 5 1 0 1 5 101 0 3 5
   2 0 4 5 1 0 5 5 259 0 9 5 1 0 2 5 256 0 2 5 1 0 1 5 4 0 1 5 144 0 4 5 2 0 2 5 4 0 1 5 32 0 6
   5 2 0 2 5 40 0 6 5 2 0 4 5 8 0 1 5 9 0 6 5 2 0 3 5 46 0 13 5 1 0 2 5 406 0 7 5 1 0 6 5 84 0
   22 5 2 0 7 5 1 0 2 5 1 0 2 5 122 0 6 5 3 0 1 5 1 0 2 5 1 0 7 5 1 0 1 5 72 0 2 5 3 0 1 5 1 0
   1 5 347 0 2 5 11 0 2 5 52 0 5 5 5 0 1 5 1 0 1 5 146 0 29 4 5198 0 1 5 6 0 15 5 13978 0 5 5
   59 0 7 5 1048 0 1 5 63 0 4 5 79 0 1 4 1 0 1 5 19640 0 2 5 1 0 4 4 4700 0 46 5 2 0 23 5 544 0
   3 5 9 0 8 4 8 5 2 0 7 5 30 0 4 5 59 0 2 4 21 0 66 4 3 5 1 4 186 0 87 4 900 0 1 4 57 0 1 4 57
   0 1 4 57 0 1 4 57 0 1 4 10 0 50 3 512 0 55 5 4 0 50 5 8 0 1 5 14 0 1 5 22 0 5 5 1 0 15 5
   1360 0 7 5 1 0 17 5 2 0 7 5 1 0 2 5 1 0 5 5 100 0 1 5 160 0 7 5 375 0 1 5 61 0 4 5 15 0 1 4
   492 0 4 5 784 0 208 1 7 5 109 1 7 5 1445 1 2 4 270 1 44 4 4 0 100 4 12 0 15 4 2 0 15 4 1 0
   15 4 1 0 37 4 10 0 11 3 5 4 31 0 1 4 58 0 6 4 61 0 1 4 178 0 6 4 154 0 984 4 4 0 17 4 3 0 13
   4 3 0 119 4 4 0 95 4 6 0 12 4 4 0 1 4 15 0 12 4 4 0 56 4 8 0 10 4 6 0 40 4 8 0 30 4 2 0 2 4
   78 0 340 4 12 0 14 4 2 0 13 4 3 0 9 4 7 0 46 4 1 0 7 4 8 0 14 4 4 0 9 4 7 0 9 4 7 0 147 4 1
   0 55 4 37 0 10 3 1028 0 2 4 65534 0 2 4 65534 0 2 4 65534 0 2 4 65534 0 2 4 65534 0 2 4
   65534 0 2 4 65534 0 2 4 65534 0 2 4 65534 0 2 4 65534 0 2 4 65534 0 2 4 65534 0 258 4 240 5
   3600 4 61438 0 2 4 65534 0 2 4 65534 0 2 4 0 0"

def direction (n : Nat) : Direction := (directions.find? n).getD .formatting

/-- The sides on which a letter of a cursive script joins its neighbours. -/
inductive Joining where
  | none
  | both
  | left
  | right
  | transparent
  deriving DecidableEq, Repr

/-- The way of joining that a table abbreviates by a number. -/
def Joining.ofCode : Nat → Joining
  | 1 => .both
  | 2 => .left
  | 3 => .right
  | 4 => .transparent
  | _ => .none

@[irreducible] def joinings : CodePointMap Joining := .ofRuns Joining.ofCode
  "173 0 1 4 594 0 112 4 275 0 7 4 263 0 45 4 1 0 1 4 1 0 2 4 1 0 2 4 1 0 1 4 72 0 11 4 1 0 1 4
   3 0 1 1 1 0 4 3 1 1 1 3 1 1 1 3 5 1 4 3 13 1 1 0 7 1 1 3 2 1 21 4 14 0 2 1 1 4 3 3 1 0 3 3
   16 1 18 3 38 1 1 3 2 1 9 3 1 1 1 3 1 1 1 3 2 1 2 3 1 0 1 3 7 4 2 0 6 4 2 0 2 4 1 0 4 4 2 3
   10 0 3 1 2 0 1 1 15 0 1 4 1 3 1 4 3 1 5 3 4 1 1 3 9 1 1 3 1 1 1 3 1 1 1 3 2 1 1 3 27 4 2 0 1
   3 11 1 3 3 15 1 2 3 4 1 1 3 1 1 2 3 3 1 2 3 6 1 38 0 11 4 25 0 33 1 9 4 9 0 1 4 24 0 4 4 1 0
   9 4 1 0 3 4 1 0 5 4 18 0 1 3 5 1 2 3 1 1 1 3 10 1 1 3 1 1 3 3 3 4 4 0 1 1 1 0 4 1 1 0 1 3 1
   1 2 3 5 0 19 3 3 0 1 1 2 0 5 1 1 3 9 0 8 4 10 1 3 3 1 0 1 3 2 1 2 3 6 1 1 3 15 1 1 0 24 4 1
   0 32 4 55 0 1 4 1 0 1 4 4 0 8 4 4 0 1 4 3 0 7 4 10 0 2 4 29 0 1 4 58 0 1 4 4 0 4 4 8 0 1 4
   20 0 2 4 26 0 1 4 2 0 2 4 57 0 1 4 4 0 2 4 4 0 2 4 2 0 3 4 3 0 1 4 30 0 2 4 3 0 1 4 11 0 2 4
   57 0 1 4 4 0 5 4 1 0 2 4 4 0 1 4 20 0 2 4 22 0 6 4 1 0 1 4 58 0 1 4 2 0 1 4 1 0 4 4 8 0 1 4
   7 0 2 4 11 0 2 4 30 0 1 4 61 0 1 4 12 0 1 4 50 0 1 4 3 0 1 4 55 0 1 4 1 0 3 4 5 0 3 4 1 0 4
   4 7 0 2 4 11 0 2 4 29 0 1 4 58 0 1 4 2 0 1 4 6 0 1 4 5 0 2 4 20 0 2 4 28 0 2 4 57 0 2 4 4 0
   4 4 8 0 1 4 20 0 2 4 29 0 1 4 72 0 1 4 7 0 3 4 1 0 1 4 90 0 1 4 2 0 7 4 12 0 8 4 98 0 1 4 2
   0 9 4 11 0 7 4 73 0 2 4 27 0 1 4 1 0 1 4 1 0 1 4 55 0 14 4 1 0 5 4 1 0 2 4 5 0 11 4 1 0 36 4
   9 0 1 4 102 0 4 4 1 0 6 4 1 0 2 4 2 0 2 4 25 0 2 4 4 0 3 4 16 0 4 4 13 0 1 4 2 0 2 4 6 0 1 4
   15 0 1 4 703 0 3 4 946 0 3 4 29 0 2 4 30 0 2 4 30 0 2 4 64 0 2 4 1 0 7 4 8 0 1 4 2 0 11 4 9
   0 1 4 41 0 1 1 3 0 3 4 1 0 1 4 16 0 89 1 12 0 2 4 34 1 1 4 1 1 117 0 3 4 4 0 2 4 9 0 1 4 6 0
   3 4 219 0 2 4 2 0 1 4 58 0 1 4 1 0 7 4 1 0 1 4 1 0 1 4 2 0 8 4 6 0 10 4 2 0 1 4 48 0 31 4 49
   0 4 4 48 0 1 4 1 0 5 4 1 0 1 4 5 0 1 4 40 0 9 4 12 0 2 4 32 0 4 4 2 0 2 4 1 0 3 4 56 0 1 4 1
   0 2 4 3 0 1 4 1 0 3 4 58 0 8 4 2 0 2 4 152 0 3 4 1 0 13 4 1 0 7 4 4 0 1 4 6 0 1 4 3 0 2 4
   198 0 64 4 523 0 1 4 2 0 2 4 26 0 5 4 49 0 5 4 5 0 6 4 96 0 33 4 3070 0 3 4 141 0 1 4 96 0
   32 4 554 0 4 4 107 0 2 4 30164 0 4 4 1 0 10 4 32 0 2 4 80 0 2 4 272 0 1 4 3 0 1 4 4 0 1 4 25
   0 2 4 5 0 1 4 19 0 50 1 1 2 81 0 2 4 26 0 18 4 13 0 1 4 38 0 8 4 25 0 11 4 46 0 3 4 48 0 1 4
   2 0 4 4 2 0 2 4 39 0 1 4 67 0 6 4 2 0 2 4 2 0 2 4 12 0 1 4 8 0 1 4 47 0 1 4 51 0 1 4 1 0 3 4
   2 0 2 4 5 0 2 4 1 0 1 4 42 0 2 4 8 0 1 4 238 0 1 4 2 0 1 4 4 0 1 4 20272 0 1 4 737 0 16 4 16
   0 16 4 207 0 1 4 249 0 3 4 513 0 1 4 226 0 1 4 149 0 5 4 1670 0 3 4 1 0 2 4 5 0 4 4 40 0 3 4
   4 0 1 4 128 0 5 1 1 3 1 0 1 3 1 0 2 3 2 0 1 2 5 3 4 1 1 2 5 1 1 3 3 1 1 3 2 0 1 3 2 4 4 0 4
   1 1 3 144 0 1 1 1 3 1 1 3 3 3 1 1 3 2 1 1 3 1 1 2 3 1 1 1 3 23 0 4 3 2 1 337 0 1 2 33 1 1 3
   1 1 4 4 387 0 2 4 80 0 3 4 48 0 3 1 1 3 17 1 1 0 11 4 3 1 1 3 27 0 4 1 2 3 12 1 4 4 42 0 1 1
   1 0 2 1 3 3 1 0 1 1 2 3 2 1 1 3 2 1 1 0 1 1 2 3 1 1 4 0 1 3 1 1 1 2 53 0 1 4 54 0 15 4 41 0
   1 4 2 0 2 4 10 0 3 4 49 0 4 4 2 0 2 4 7 0 1 4 61 0 3 4 36 0 5 4 1 0 8 4 62 0 1 4 12 0 2 4 52
   0 9 4 10 0 4 4 2 0 1 4 95 0 3 4 2 0 1 4 1 0 2 4 6 0 1 4 2 0 1 4 157 0 1 4 3 0 8 4 21 0 2 4
   57 0 2 4 3 0 1 4 37 0 7 4 3 0 5 4 195 0 8 4 2 0 3 4 1 0 1 4 23 0 1 4 84 0 6 4 1 0 1 4 4 0 2
   4 1 0 2 4 238 0 4 4 6 0 2 4 1 0 2 4 27 0 2 4 85 0 8 4 2 0 1 4 1 0 2 4 106 0 1 4 1 0 1 4 2 0
   6 4 1 0 1 4 101 0 3 4 2 0 4 4 1 0 5 4 259 0 9 4 1 0 2 4 256 0 2 4 1 0 1 4 4 0 1 4 144 0 4 4
   2 0 2 4 4 0 1 4 32 0 10 4 40 0 6 4 2 0 4 4 8 0 1 4 9 0 6 4 2 0 3 4 46 0 13 4 1 0 2 4 406 0 7
   4 1 0 6 4 1 0 1 4 82 0 22 4 2 0 7 4 1 0 2 4 1 0 2 4 122 0 6 4 3 0 1 4 1 0 2 4 1 0 7 4 1 0 1
   4 72 0 2 4 3 0 1 4 1 0 1 4 347 0 2 4 11 0 2 4 52 0 5 4 5 0 1 4 1 0 1 4 5357 0 17 4 6 0 15 4
   13978 0 5 4 59 0 7 4 1048 0 1 4 63 0 4 4 81 0 1 4 19640 0 2 4 1 0 4 4 4700 0 46 4 2 0 23 4
   544 0 3 4 9 0 16 4 2 0 7 4 30 0 4 4 148 0 3 4 1979 0 55 4 4 0 50 4 8 0 1 4 14 0 1 4 22 0 5 4
   1 0 15 4 1360 0 7 4 1 0 17 4 2 0 7 4 1 0 2 4 1 0 5 4 100 0 1 4 160 0 7 4 375 0 1 4 61 0 4 4
   508 0 4 4 992 0 7 4 41 0 68 1 8 4 792245 0 1 4 30 0 96 4 128 0 240 4 196112 0"

def joining (n : Nat) : Joining := (joinings.find? n).getD .none

end FieldRules.Text
