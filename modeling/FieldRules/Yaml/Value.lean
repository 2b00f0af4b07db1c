import FieldRules.Decimal.Numeral
import FieldRules.Json.Basic
import FieldRules.Yaml.Node

/-!
The values of YAML nodes, and their JSON form.

Plain scalars are null, truth values and numbers where they look so. Other tags than those of the
core stay with the value.
-/

namespace FieldRules.Yaml

/-- The value of a node. -/
inductive Value where
  | null
  | bool (b : Bool)
  | number (n : Json.Number)
  /-- An infinity, or no number. -/
  | nonFinite (x : Double)
  | text (s : String)
  | sequence (items : List Value)
  | mapping (pairs : List (Value × Value))
  | tagged (tag : String) (v : Value)
  deriving Inhabited

/-- What a plain scalar looks like. A whole number that needs more than 64 bits but not more than
128 is no value of a document. -/
inductive Look where
  | null
  | bool (b : Bool)
  | whole (n : Int)
  | float (x : Double)
  | text
  deriving Repr

namespace Look

def isNull (s : String) : Bool := ["null", "Null", "NULL", "~"].contains s

def truth? (s : String) : Option Bool :=
  if ["true", "True", "TRUE"].contains s then some true
  else if ["false", "False", "FALSE"].contains s then some false
  else none

/-- Digits behind a zero and perhaps a sign are a text. -/
def isPaddedNumber (s : List Char) : Bool :=
  let digits := match s with
    | '-' :: rest | '+' :: rest => rest
    | s => s
  1 < digits.length && digits.head? == some '0' && digits.all Char.isDigit

def startsWithSign : List Char → Bool
  | '+' :: _ | '-' :: _ => true
  | _ => false

/-- The bases of numbers that are marked behind a zero. -/
def base? : Char → Option Nat
  | 'x' => some 16
  | 'o' => some 8
  | 'b' => some 2
  | _ => none

/-- A whole number without a minus. -/
def unsigned? (s : List Char) : Option Nat :=
  let bare := match s with
    | '+' :: rest => rest
    | s => s
  let marked := match bare with
    | '0' :: mark :: digits =>
      (base? mark).bind fun base =>
        if startsWithSign digits then none else Numeral.unsigned? base digits
    | _ => none
  match marked with
  | some n => some n
  | none =>
    if startsWithSign bare || isPaddedNumber s then none else Numeral.unsigned? 10 bare

/-- A whole number with a minus. -/
def negative? (s : List Char) : Option Int :=
  let marked := match s with
    | '-' :: '0' :: mark :: digits =>
      (base? mark).bind fun base => Numeral.signed? base ('-' :: digits)
    | _ => none
  match marked with
  | some n => some n
  | none => if isPaddedNumber s then none else Numeral.signed? 10 s

/-- A whole number of at most 128 bits. -/
def whole? (s : List Char) : Option Int :=
  let half : Int := 0x80000000000000000000000000000000
  match (unsigned? s).filter (· < 0x100000000000000000000000000000000) with
  | some n => some n
  | none => (negative? s).filter fun n => -half ≤ n ∧ n < half

/-- A number with a fraction or an exponent, or one of the words for what is not finite. -/
def float? (s : String) : Option Double :=
  let chars := s.toList
  let bare := match chars with
    | '+' :: rest => rest
    | s => s
  if chars.head? = some '+' ∧ startsWithSign bare then none
  else if [".inf", ".Inf", ".INF"].contains (String.ofList bare) then some (.infinite false)
  else if ["-.inf", "-.Inf", "-.INF"].contains s then some (.infinite true)
  else if [".nan", ".NaN", ".NAN"].contains s then some .nan
  else
    match Numeral.readDouble? (String.ofList bare) with
    | some (.finite x) => some (.finite x)
    | _ => none

/-- What a plain scalar without a tag looks like. -/
def ofPlain (s : String) : Look :=
  if s.isEmpty || isNull s then .null
  else
    match truth? s with
    | some b => .bool b
    | none =>
      match whole? s.toList with
      | some n => .whole n
      | none =>
        if isPaddedNumber s.toList then .text
        else
          match float? s with
          | some x => .float x
          | none => .text

/-- The value that a scalar of this look has. -/
def value? (s : String) : Look → Option Value
  | .null => some .null
  | .bool b => some (.bool b)
  | .whole n => (Json.Number.ofInt? n).map .number
  | .float (.finite x) => some (.number (.real x))
  | .float x => some (.nonFinite x)
  | .text => some (.text s)

end Look

/-- The name of a tag that stays with its value. -/
def customTag? (tag : Option String) : Option String :=
  tag.bind fun tag =>
    match tag.toList with
    | ['!'] => some "!"
    | '!' :: rest => some (String.ofList rest)
    | _ => none

/-- The value of a scalar. Tags of the core prescribe a look; `tagged` says that a tag has been
taken off. -/
def scalarValue? (tagged : Bool) (tag : Option String) (style : ScalarStyle) (s : String) :
    Option Value :=
  let plain := if style = .plain then (Look.ofPlain s).value? s else some (.text s)
  if tagged then plain
  else
    match tag with
    | none => plain
    | some "tag:yaml.org,2002:bool" => (Look.truth? s).map .bool
    | some "tag:yaml.org,2002:int" => (Look.whole? s.toList).bind fun n => (Look.whole n).value? s
    | some "tag:yaml.org,2002:float" => (Look.float? s).bind fun x => (Look.float x).value? s
    | some "tag:yaml.org,2002:null" => if Look.isNull s then some .null else none
    | some _ => some (.text s)

mutual

/-- Two values are one key. The order of pairs does not count. -/
def Value.sameKey : Value → Value → Bool
  | .null, .null => true
  | .bool a, .bool b => a == b
  | .number a, .number b => a.sameValue b
  | .nonFinite a, .nonFinite b => a == b
  | .text a, .text b => a == b
  | .sequence a, .sequence b => sameKeys a b
  | .mapping a, .mapping b => a.length == b.length && samePairs a b
  | .tagged s a, .tagged t b => s == t && a.sameKey b
  | _, _ => false

def Value.sameKeys : List Value → List Value → Bool
  | [], [] => true
  | a :: as, b :: bs => a.sameKey b && sameKeys as bs
  | _, _ => false

def Value.samePairs : List (Value × Value) → List (Value × Value) → Bool
  | [], _ => true
  | (key, value) :: rest, pairs =>
    (pairs.any fun pair => key.sameKey pair.1 && value.sameKey pair.2) && samePairs rest pairs

end

/-- What aliases are resolved with. -/
structure Anchors where
  nodes : List (Nat × Node)
  /-- How many aliases may be followed in all. -/
  limit : Nat

/-- Following aliases, with the count of those followed so far. -/
abbrev Resolve := StateT Nat Option

/-- The node itself, or the one that an alias refers to. -/
def Anchors.follow (anchors : Anchors) : Node → Resolve Node
  | .alias number => do
    let count ← get
    if anchors.limit ≤ count then failure
    set (count + 1)
    match anchors.nodes.reverse.lookup number with
    | some node => return node
    | none => failure
  | node => return node

/-- Adds a pair with a key that is not there yet. -/
def addPair (pairs : List (Value × Value)) (key value : Value) : Resolve (List (Value × Value)) :=
  if pairs.any fun pair => pair.1.sameKey key then failure else return pairs ++ [(key, value)]

/-- The value of a node that is no alias, with collections in at most `depth` levels. -/
def valueOf (anchors : Anchors) (depth : Nat) (tagged : Bool) (node : Node) : Resolve Value :=
  let keep (tag : Option String) (v : Value) : Value :=
    match (if tagged then none else customTag? tag) with
    | some tag => .tagged tag v
    | none => v
  match depth, node with
  | _, .alias _ => failure
  | _, .scalar _ tag style s => do
    let isCustom := !tagged && (customTag? tag).isSome
    let v ← StateT.lift (scalarValue? (tagged || isCustom) tag style s)
    return keep tag v
  | 0, _ => failure
  | depth + 1, .sequence _ tag items => do
    let values ← items.mapM fun item => do valueOf anchors depth false (← anchors.follow item)
    return keep tag (.sequence values)
  | depth + 1, .mapping _ tag pairs => do
    let keysTagged := tagged || (customTag? tag).isSome
    let values ← pairs.foldlM (fun acc pair => do
      let key ← valueOf anchors depth keysTagged (← anchors.follow pair.1)
      let value ← valueOf anchors depth false (← anchors.follow pair.2)
      addPair acc key value) []
    return keep tag (.mapping values)

/-- How deep collections may be nested. -/
def maxDepth : Nat := 128

/-- What the aliases of a document are resolved with. -/
def Anchors.ofRoot (root : Node) : Anchors := ⟨root.anchored, root.weight * 100⟩

/-- The value of a document. -/
def Node.value? (root : Node) : Option Value :=
  ((valueOf (.ofRoot root) maxDepth false root).run 0).map Prod.fst

/-- Reads a text; a text without a document is null. -/
def read? (text : String) : Option Value := do
  match ← document? text with
  | none => return .null
  | some root => root.value?

namespace Value

/-- The text of a tag, behind one exclamation mark. -/
def tagText (tag : String) : String :=
  match tag.toList with
  | ['!'] => "!!"
  | '!' :: rest => String.ofList ('!' :: rest)
  | rest => String.ofList ('!' :: rest)

/-- The text of a key; only truth values, finite numbers and texts can be keys of objects. -/
def keyText? : Value → Option String
  | .bool b => some (if b then "true" else "false")
  | .number n => some n.text
  | .text s => some s
  | _ => none

mutual

/-- The value as JSON; `none` if a mapping has a key that no object can have. -/
def toJson? : Value → Option Json
  | .null | .nonFinite _ => some .null
  | .bool b => some (.bool b)
  | .number n => some (.number n)
  | .text s => some (.string s)
  | .sequence items => (itemsToJson? items).map .array
  | .mapping pairs => (pairsToJson? pairs).map fun members => .ofMap (.ofList members)
  | .tagged tag v => (toJson? v).map fun v => .object [(tagText tag, v)]

def itemsToJson? : List Value → Option (List Json)
  | [] => some []
  | item :: rest => do return (← toJson? item) :: (← itemsToJson? rest)

def pairsToJson? : List (Value × Value) → Option (List (String × Json))
  | [] => some []
  | (key, value) :: rest => do
    let text ← keyText? key
    return (text, ← toJson? value) :: (← pairsToJson? rest)

end

end Value

end FieldRules.Yaml
