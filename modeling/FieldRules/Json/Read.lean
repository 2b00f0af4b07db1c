import FieldRules.Json.Token

/-!
JSON values from their tokens. The reader keeps the containers that are open on a stack, so that
each token is looked at once.
-/

namespace FieldRules.Json

/-- A container that is being read: what it holds so far, newest first for an array, and the key
that waits for its value. -/
inductive Open where
  | array (items : List Json)
  | object (members : List (String × Json)) (key : Option String)

/-- What may come next. -/
inductive Expect where
  /-- A value; `closing` where the container may also end here, as it is still empty. -/
  | value (closing : Bool)
  /-- A key; `closing` as for values. -/
  | key (closing : Bool)
  | colon
  /-- A comma or the end of the innermost container, or the end of the text. -/
  | separator
  deriving DecidableEq

/-- The reader between two tokens. -/
structure Reader where
  stack : List Open
  expect : Expect
  /-- The value of the document, once it is complete. -/
  result : Option Json

/-- How an object takes another member. -/
abbrev Write := List (String × Json) → String → Json → List (String × Json)

namespace Reader

def start : Reader := ⟨[], .value false, none⟩

/-- Hands a complete value to the innermost open container, or makes it the document. -/
def give (write : Write) (stack : List Open) (v : Json) : Option Reader :=
  match stack with
  | [] => some ⟨[], .separator, some v⟩
  | .array items :: rest => some ⟨.array (v :: items) :: rest, .separator, none⟩
  | .object members (some key) :: rest =>
    some ⟨.object (write members key v) none :: rest, .separator, none⟩
  | .object _ none :: _ => none

/-- Reads one token. No more than `depth` containers may be open at a time. -/
def step (write : Write) (depth : Nat) (r : Reader) (token : Token) : Option Reader :=
  match r.expect, token, r.stack with
  | .value _, .scalar v, stack => give write stack v
  | .value _, .openArray, stack =>
    if stack.length < depth then some ⟨.array [] :: stack, .value true, none⟩ else none
  | .value _, .openObject, stack =>
    if stack.length < depth then some ⟨.object [] none :: stack, .key true, none⟩ else none
  | .value true, .closeArray, .array items :: rest => give write rest (.array items.reverse)
  | .key _, .scalar (.string key), .object members none :: rest =>
    some ⟨.object members (some key) :: rest, .colon, none⟩
  | .key true, .closeObject, .object members none :: rest => give write rest (.object members)
  | .colon, .colon, stack => some ⟨stack, .value false, none⟩
  | .separator, .comma, .array items :: rest => some ⟨.array items :: rest, .value false, none⟩
  | .separator, .comma, .object members none :: rest =>
    some ⟨.object members none :: rest, .key false, none⟩
  | .separator, .closeArray, .array items :: rest => give write rest (.array items.reverse)
  | .separator, .closeObject, .object members none :: rest => give write rest (.object members)
  | _, _, _ => none

end Reader

/-- The value that a list of tokens spells. -/
def ofTokens? (write : Write) (depth : Nat) (tokens : List Token) : Option Json :=
  (tokens.foldlM (Reader.step write depth) Reader.start).bind (·.result)

/-- No more than this many containers of a document stand inside one another. -/
def maxDepth : Nat := 127

/-- Reads a JSON text. The last value of a repeated key wins, at the key's first position. -/
def read? (s : String) : Option Json :=
  (Token.scan? s.toList).bind (ofTokens? Assoc.put maxDepth)

/-- Reads a JSON text whose containers may be nested to any depth. -/
def readDeep? (s : String) : Option Json :=
  (Token.scan? s.toList).bind fun tokens => ofTokens? Assoc.put tokens.length tokens

/-- Reads a JSON text whose containers may be nested to any depth, and keeps all members of repeated
keys. -/
def readRepeating? (s : String) : Option Json :=
  (Token.scan? s.toList).bind fun tokens =>
    ofTokens? (fun members key v => members ++ [(key, v)]) tokens.length tokens

end FieldRules.Json
