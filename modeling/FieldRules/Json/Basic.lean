import FieldRules.Json.Number
import FieldRules.OrderedMap

/-!
JSON values. Objects keep their members in document order.
-/

namespace FieldRules

/-- A JSON value. -/
inductive Json where
  | null
  | bool (b : Bool)
  | number (n : Json.Number)
  | string (s : String)
  | array (items : List Json)
  | object (members : List (String × Json))
  deriving Inhabited

namespace Json

/-- The kinds of value, as they are named in messages. -/
inductive Kind where
  | null | boolean | number | string | array | object
  deriving DecidableEq, Repr

def Kind.name : Kind → String
  | .null => "null"
  | .boolean => "boolean"
  | .number => "number"
  | .string => "string"
  | .array => "array"
  | .object => "object"

def kind : Json → Kind
  | .null => .null
  | .bool _ => .boolean
  | .number _ => .number
  | .string _ => .string
  | .array _ => .array
  | .object _ => .object

/-- A scalar, or a container that holds nothing. -/
def isTerminal : Json → Bool
  | .array items => items.isEmpty
  | .object members => members.isEmpty
  | _ => true

/-- The object with the entries of a map as its members. -/
def ofMap (m : OrderedMap Json) : Json := .object m.entries

/-- A whole number that is known to fit. -/
def ofNat (n : Nat) (h : n < 0x10000000000000000 := by decide) : Json :=
  .number (.whole n ⟨by omega, by omega⟩)

/-- A count. What is counted here never needs more than 64 bits. -/
def ofCount (n : Nat) : Json := .ofNat (min n (0x10000000000000000 - 1)) (by omega)

/-- The member of an object. -/
def member? (v : Json) (key : String) : Option Json :=
  match v with
  | .object members => Assoc.find? members key
  | _ => none

mutual

/-- Equality of values, shown by comparing the parts in turn. -/
def decEq (a b : Json) : Decidable (a = b) :=
  match a, b with
  | .null, .null => isTrue rfl
  | .bool a, .bool b => decidable_of_iff (a = b) (by simp)
  | .number a, .number b => decidable_of_iff (a = b) (by simp)
  | .string a, .string b => decidable_of_iff (a = b) (by simp)
  | .array a, .array b =>
    match decEqItems a b with
    | isTrue h => isTrue (by rw [h])
    | isFalse h => isFalse (by simpa using h)
  | .object a, .object b =>
    match decEqMembers a b with
    | isTrue h => isTrue (by rw [h])
    | isFalse h => isFalse (by simpa using h)
  | .null, .bool _ | .null, .number _ | .null, .string _ | .null, .array _ | .null, .object _
  | .bool _, .null | .bool _, .number _ | .bool _, .string _ | .bool _, .array _
  | .bool _, .object _ | .number _, .null | .number _, .bool _ | .number _, .string _
  | .number _, .array _ | .number _, .object _ | .string _, .null | .string _, .bool _
  | .string _, .number _ | .string _, .array _ | .string _, .object _ | .array _, .null
  | .array _, .bool _ | .array _, .number _ | .array _, .string _ | .array _, .object _
  | .object _, .null | .object _, .bool _ | .object _, .number _ | .object _, .string _
  | .object _, .array _ => isFalse (by simp)

def decEqItems (a b : List Json) : Decidable (a = b) :=
  match a, b with
  | [], [] => isTrue rfl
  | [], _ :: _ | _ :: _, [] => isFalse (by simp)
  | x :: xs, y :: ys =>
    match decEq x y with
    | isFalse h => isFalse (by simp [h])
    | isTrue h =>
      match decEqItems xs ys with
      | isTrue hs => isTrue (by rw [h, hs])
      | isFalse hs => isFalse (by simp [hs])

def decEqMembers (a b : List (String × Json)) : Decidable (a = b) :=
  match a, b with
  | [], [] => isTrue rfl
  | [], _ :: _ | _ :: _, [] => isFalse (by simp)
  | (k, x) :: xs, (l, y) :: ys =>
    if hk : k = l then
      match decEq x y with
      | isFalse h => isFalse (by simp [h])
      | isTrue h =>
        match decEqMembers xs ys with
        | isTrue hs => isTrue (by rw [hk, h, hs])
        | isFalse hs => isFalse (by simp [hs])
    else isFalse (by simp [hk])

end

instance : DecidableEq Json := decEq

mutual

/-- Equality up to the order of members and the sign of zero. -/
def sameValue (a b : Json) : Bool :=
  match a, b with
  | .null, .null => true
  | .bool a, .bool b => a == b
  | .number a, .number b => a.sameValue b
  | .string a, .string b => a == b
  | .array a, .array b => sameItems a b
  | .object a, .object b => a.length == b.length && sameMembers a b
  | _, _ => false

def sameItems (a b : List Json) : Bool :=
  match a, b with
  | [], [] => true
  | x :: xs, y :: ys => sameValue x y && sameItems xs ys
  | _, _ => false

/-- Every member of the first list has an equal one of its key in the second. -/
def sameMembers (a b : List (String × Json)) : Bool :=
  match a with
  | [] => true
  | (key, x) :: rest =>
    (match Assoc.find? b key with
      | some y => sameValue x y
      | none => false) && sameMembers rest b

end

mutual

/-- No object holds a key twice, at any depth. -/
def WellFormed : Json → Prop
  | .array items => WellFormedItems items
  | .object members => (Assoc.keys members).Nodup ∧ WellFormedMembers members
  | _ => True

def WellFormedItems : List Json → Prop
  | [] => True
  | item :: rest => item.WellFormed ∧ WellFormedItems rest

def WellFormedMembers : List (String × Json) → Prop
  | [] => True
  | member :: rest => member.2.WellFormed ∧ WellFormedMembers rest

end

end Json

end FieldRules
