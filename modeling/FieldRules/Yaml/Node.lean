import FieldRules.Yaml.Scan

/-!
YAML documents as trees of nodes.
-/

namespace FieldRules.Yaml

/-- A node of a document. An anchor is known by a number, by which aliases refer to it. -/
inductive Node where
  | alias (anchor : Nat)
  | scalar (anchor : Option Nat) (tag : Option String) (style : ScalarStyle) (text : String)
  | sequence (anchor : Option Nat) (tag : Option String) (items : List Node)
  | mapping (anchor : Option Nat) (tag : Option String) (pairs : List (Node × Node))
  deriving Inhabited

namespace Node

/-- The node of which nothing is written. -/
def absent : Node := .scalar none none .plain ""

mutual

/-- The nodes with anchors, in the order in which they start. -/
def anchored : Node → List (Nat × Node)
  | .alias _ => []
  | .scalar anchor tag style text =>
    match anchor with
    | some n => [(n, .scalar anchor tag style text)]
    | none => []
  | .sequence anchor tag items =>
    (match anchor with
      | some n => [(n, .sequence anchor tag items)]
      | none => []) ++ anchoredItems items
  | .mapping anchor tag pairs =>
    (match anchor with
      | some n => [(n, .mapping anchor tag pairs)]
      | none => []) ++ anchoredPairs pairs

def anchoredItems : List Node → List (Nat × Node)
  | [] => []
  | item :: rest => anchored item ++ anchoredItems rest

def anchoredPairs : List (Node × Node) → List (Nat × Node)
  | [] => []
  | pair :: rest => anchored pair.1 ++ anchored pair.2 ++ anchoredPairs rest

end

mutual

/-- The number of scalars, aliases, and starts and ends of collections. -/
def weight : Node → Nat
  | .alias _ | .scalar .. => 1
  | .sequence _ _ items => 2 + weightItems items
  | .mapping _ _ pairs => 2 + weightPairs pairs

def weightItems : List Node → Nat
  | [] => 0
  | item :: rest => weight item + weightItems rest

def weightPairs : List (Node × Node) → Nat
  | [] => 0
  | pair :: rest => weight pair.1 + weight pair.2 + weightPairs rest

end

end Node

/-- What reading nodes keeps: the tokens ahead, the names of anchors, and the handles of tags. -/
structure TokenStream where
  ahead : List Token
  /-- The numbers of anchors by their latest declaration. -/
  anchors : List (List Char × Nat) := []
  handles : List (List Char × List Char) := []

/-- Reading that fails on what is not allowed. -/
abbrev Reader := StateT TokenStream Option

namespace Reader

def peek : Reader Token := do
  match (← get).ahead with
  | token :: _ => return token
  | [] => failure

def drop : Reader Unit := modify fun s => { s with ahead := s.ahead.drop 1 }

/-- Takes a token that has to be there. -/
def expect (token : Token) : Reader Unit := do
  if (← peek) = token then drop else failure

/-- Takes a token if it is there. -/
def take (token : Token) : Reader Bool := do
  if (← peek) = token then
    drop
    return true
  else return false

/-- Numbers an anchor by the count of names so far. A name that is used again gets a new number, but
the count stays. -/
def declare (name : List Char) : Reader Nat := do
  let s ← get
  let number := s.anchors.length
  let others := s.anchors.filter (·.1 != name)
  set { s with anchors := (name, number) :: others }
  return number

/-- The full form of a tag. -/
def fullTag (handle suffix : List Char) : Reader String := do
  if handle.isEmpty then return String.ofList suffix
  match (← get).handles.lookup handle with
  | some start => return String.ofList (start ++ suffix)
  | none => failure

/-- The anchor and the tag before a node, in either order. -/
def properties : Reader (Option Nat × Option String) := do
  let anchor? : Reader (Option (List Char)) := do
    match ← peek with
    | .anchor name =>
      drop
      return some name
    | _ => return none
  let tag? : Reader (Option (List Char × List Char)) := do
    match ← peek with
    | .tag handle suffix =>
      drop
      return some (handle, suffix)
    | _ => return none
  let first ← anchor?
  let tag ← tag?
  let name ← if first.isNone then anchor? else pure first
  let tag ← match tag with
    | some (handle, suffix) => some <$> fullTag handle suffix
    | none => pure none
  let number ← match name with
    | some name => some <$> declare name
    | none => pure none
  return (number, tag)

/-- What can follow the sign of an item, a key or a value where nothing is written behind it. -/
def endsEntry : Token → Bool
  | .key | .value | .blockEnd => true
  | _ => false

mutual

/-- Reads a node. `block` admits block collections, and `indentless` items that are not indented. -/
def node (fuel : Nat) (block indentless : Bool) : Reader Node :=
  match fuel with
  | 0 => failure
  | fuel + 1 => do
    match ← peek with
    | .alias name =>
      drop
      match (← get).anchors.lookup name with
      | some number => return .alias number
      | none => failure
    | _ =>
      let (anchor, tag) ← properties
      match ← peek with
      | .blockEntry =>
        if indentless then return .sequence anchor tag (← indentlessItems fuel)
        else if anchor.isSome || tag.isSome then return .scalar anchor tag .plain ""
        else failure
      | .scalar style text =>
        drop
        return .scalar anchor (tag.filter (· != "!")) style (String.ofList text)
      | .flowSequenceStart =>
        drop
        return .sequence anchor tag (← flowItems fuel true)
      | .flowMappingStart =>
        drop
        return .mapping anchor tag (← flowPairs fuel true)
      | token =>
        if block && token = .blockSequenceStart then
          drop
          return .sequence anchor tag (← blockItems fuel)
        else if block && token = .blockMappingStart then
          drop
          return .mapping anchor tag (← blockPairs fuel)
        else if anchor.isSome || tag.isSome then return .scalar anchor tag .plain ""
        else failure

/-- Reads the items of a sequence up to the end of its block. -/
def blockItems (fuel : Nat) : Reader (List Node) :=
  match fuel with
  | 0 => failure
  | fuel + 1 => do
    if ← take .blockEntry then
      let next ← peek
      let item ←
        if next = .blockEntry || next = .blockEnd then pure Node.absent else node fuel true false
      return item :: (← blockItems fuel)
    else
      expect .blockEnd
      return []

/-- Reads items that stand in the column of the keys around them. -/
def indentlessItems (fuel : Nat) : Reader (List Node) :=
  match fuel with
  | 0 => failure
  | fuel + 1 => do
    if ← take .blockEntry then
      let next ← peek
      let item ←
        if next = .blockEntry || endsEntry next then pure Node.absent else node fuel true false
      return item :: (← indentlessItems fuel)
    else return []

/-- Reads the pairs of a mapping up to the end of its block. -/
def blockPairs (fuel : Nat) : Reader (List (Node × Node)) :=
  match fuel with
  | 0 => failure
  | fuel + 1 => do
    if ← take .key then
      let key ← if endsEntry (← peek) then pure Node.absent else node fuel true true
      let value ←
        if ← take .value then
          if endsEntry (← peek) then pure Node.absent else node fuel true true
        else pure Node.absent
      return (key, value) :: (← blockPairs fuel)
    else
      expect .blockEnd
      return []

/-- Reads the items of a sequence up to its closing bracket. A key among them starts a mapping of
one pair. -/
def flowItems (fuel : Nat) (first : Bool) : Reader (List Node) :=
  match fuel with
  | 0 => failure
  | fuel + 1 => do
    if ← take .flowSequenceEnd then return []
    if !first then expect .flowEntry
    if ← take .flowSequenceEnd then return []
    let item ←
      if ← take .key then
        let next ← peek
        let key ←
          if next = .value || next = .flowEntry || next = .flowSequenceEnd then do
            drop
            pure Node.absent
          else node fuel false false
        let value ←
          if ← take .value then
            let next ← peek
            if next = .flowEntry || next = .flowSequenceEnd then pure Node.absent
            else node fuel false false
          else pure Node.absent
        pure (.mapping none none [(key, value)])
      else node fuel false false
    return item :: (← flowItems fuel false)

/-- Reads the pairs of a mapping up to its closing brace. -/
def flowPairs (fuel : Nat) (first : Bool) : Reader (List (Node × Node)) :=
  match fuel with
  | 0 => failure
  | fuel + 1 => do
    if ← take .flowMappingEnd then return []
    if !first then expect .flowEntry
    if ← take .flowMappingEnd then return []
    let pair ←
      if ← take .key then
        let next ← peek
        let key ←
          if next = .value || next = .flowEntry || next = .flowMappingEnd then pure Node.absent
          else node fuel false false
        let value ←
          if ← take .value then
            let next ← peek
            if next = .flowEntry || next = .flowMappingEnd then pure Node.absent
            else node fuel false false
          else pure Node.absent
        pure (key, value)
      else do
        let key ← node fuel false false
        pure (key, Node.absent)
    return pair :: (← flowPairs fuel false)

end

/-- Reads the directives before a document. A version or a handle is declared once, and the version
is 1.1 or 1.2. -/
def directives (fuel : Nat) (versionSeen : Bool) (handles : List (List Char × List Char)) :
    Reader Unit :=
  match fuel with
  | 0 => failure
  | fuel + 1 => do
    match ← peek with
    | .versionDirective major minor =>
      if versionSeen || major != 1 || !(minor == 1 || minor == 2) then failure
      drop
      directives fuel true handles
    | .tagDirective handle start =>
      if (handles.lookup handle).isSome then failure
      drop
      directives fuel versionSeen ((handle, start) :: handles)
    | _ =>
      modify fun s => { s with
        handles := handles ++ [(['!'], ['!']), (['!', '!'], "tag:yaml.org,2002:".toList)] }

/-- Nothing is written of a document behind its start. -/
def endsDocument : Token → Bool
  | .versionDirective .. | .tagDirective .. | .documentStart | .documentEnd | .streamEnd => true
  | _ => false

def dropDocumentEnds (fuel : Nat) : Reader Unit :=
  match fuel with
  | 0 => return
  | fuel + 1 => do
    if ← take .documentEnd then dropDocumentEnds fuel

/-- Reads the only document of a text; `none` if the text has none. -/
def document (fuel : Nat) : Reader (Option Node) := do
  let root ← match ← peek with
    | .streamEnd => return none
    | .versionDirective .. | .tagDirective .. | .documentStart =>
      directives fuel false []
      expect .documentStart
      if endsDocument (← peek) then pure Node.absent else node fuel true false
    | _ =>
      directives fuel false []
      node fuel true false
  dropDocumentEnds fuel
  expect .streamEnd
  return some root

end Reader

/-- The only document of a text. `none` inside is a text without documents. -/
def document? (text : String) : Option (Option Node) := do
  let tokens ← tokens? text
  let (root, _) ← (Reader.document (2 * tokens.length + 2)).run { ahead := tokens }
  return root

end FieldRules.Yaml
