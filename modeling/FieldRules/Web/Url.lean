import FieldRules.Web.Host

/-!
Absolute web addresses: scheme, host and query.
-/

namespace FieldRules.Web

/-- The parts of an address that rules look at. The query is as it was written. -/
structure Url where
  scheme : String
  host : Option String
  query : Option (List Char)
  deriving DecidableEq, Repr

/-- How an address goes on behind its scheme. -/
inductive SchemeKind where
  | file
  | special
  | other
  deriving DecidableEq, Repr

def SchemeKind.ofName (name : String) : SchemeKind :=
  if name = "file" then .file
  else if ["http", "https", "ws", "wss", "ftp"].contains name then .special
  else .other

/-- Slashes that separate segments; a backslash counts unless the scheme is one of its own. -/
def SchemeKind.isSlash (kind : SchemeKind) (c : Char) : Bool :=
  c == '/' || (c == '\\' && kind != .other)

/-- Where the host and the path end. -/
def SchemeKind.endsAuthority (kind : SchemeKind) (c : Char) : Bool :=
  kind.isSlash c || c == '?' || c == '#'

namespace Url

/-- Drops controls and blanks at both ends, and tabs and line ends everywhere. -/
def clean (s : List Char) : List Char :=
  let isEdge (c : Char) : Bool := c.toNat ≤ 0x20
  (((s.dropWhile isEdge).reverse.dropWhile isEdge).reverse).filter fun c =>
    !(c == '\t' || c == '\n' || c == '\r')

/-- Splits off the scheme: a letter, then letters, digits, `+`, `-` and `.`, then a colon. -/
def splitScheme? (s : List Char) : Option (String × List Char) :=
  let isSchemeChar (c : Char) : Bool :=
    c.isAlphanum || c == '+' || c == '-' || c == '.'
  match s.span isSchemeChar with
  | (first :: others, ':' :: rest) =>
    if first.isAlpha then some ((String.ofList (first :: others)).toLower, rest) else none
  | _ => none

/-- The text between the first `?` and the first `#` behind it. -/
def queryOf (s : List Char) : Option (List Char) :=
  match (s.takeWhile (· != '#')).dropWhile (· != '?') with
  | _ :: query => some query
  | [] => none

/-- Splits at the last `@` before the path: the user, if one is given, and the rest. -/
def splitUser (kind : SchemeKind) (s : List Char) : Option (List Char) × List Char :=
  let (authority, rest) := s.span fun c => !kind.endsAuthority c
  match authority.reverse.span (· != '@') with
  | (_, []) => (none, s)
  | (host, _ :: user) => (some user.reverse, host.reverse ++ rest)

/-- Splits a host off: colons inside brackets belong to it. -/
def splitHost (kind : SchemeKind) (inBrackets : Bool) : List Char → List Char × List Char
  | [] => ([], [])
  | c :: rest =>
    if kind.endsAuthority c || (c == ':' && !inBrackets) then ([], c :: rest)
    else
      let inBrackets := if c == '[' then true else if c == ']' then false else inBrackets
      let (host, behind) := splitHost kind inBrackets rest
      (c :: host, behind)

/-- A port, if a colon announces one, is a number below 65536 and ends with the authority. -/
def checkPort (s : List Char) : Except UrlFault Unit :=
  match s with
  | ':' :: rest =>
    let (digits, behind) := rest.span fun c => '0' ≤ c ∧ c ≤ '9'
    let port := digits.foldl (fun n c => n * 10 + (c.toNat - 48)) 0
    if 65535 < port then .error .port
    else
      match behind with
      | [] => .ok ()
      | c :: _ => if "/\\?#".toList.contains c then .ok () else .error .port
  | _ => .ok ()

/-- The host behind two slashes. -/
def authority (kind : SchemeKind) (s : List Char) : Except UrlFault (Option (List Char)) := do
  let (user?, rest) := splitUser kind s
  if user? = some [] ∧ rest.head?.any kind.endsAuthority then throw .emptyHost
  let (host, behind) := splitHost kind false rest
  if kind = .special ∧ host.isEmpty then throw .emptyHost
  let host ← if kind = .special then Host.ofDomain host else Host.ofOpaque host
  if host.isEmpty ∧ behind.head? = some ':' then throw .emptyHost
  checkPort behind
  let hasUser := user?.any fun user => !user.isEmpty && user != [':']
  if host.isEmpty then
    if hasUser then throw .emptyHost else return none
  else return some host

/-- A letter and a colon or a bar name a drive. -/
def isDrive : List Char → Bool
  | [letter, mark] => letter.isAlpha && (mark == ':' || mark == '|')
  | _ => false

/-- Whether a segment stands for its own place, and whether for the place above. -/
def dots (segment : List Char) : Option Nat :=
  let plain := (String.ofList segment).toLower.replace "%2e" "."
  if plain = "." then some 1 else if plain = ".." then some 2 else none

/-- The path starts with a drive, after dots are resolved; `depth` segments lie before. -/
def startsWithDrive (depth : Nat) : List (List Char) → Bool
  | [] => false
  | segment :: rest =>
    match dots segment with
    | some 1 => startsWithDrive depth rest
    | some _ => startsWithDrive (depth - 1) rest
    | none => (depth == 0 && isDrive segment) || startsWithDrive (depth + 1) rest

/-- The segments of a path, behind the slash that may open it. -/
def segmentsOf (s : List Char) : List (List Char) :=
  let path := s.takeWhile fun c => c != '?' && c != '#'
  let path := match path with
    | c :: rest => if SchemeKind.file.isSlash c then rest else path
    | [] => []
  path.splitOnP SchemeKind.file.isSlash

/-- The host of a file address: behind two slashes, unless it is the machine itself or a drive. A
path that starts with a drive has no host. -/
def fileHost (s : List Char) : Except UrlFault (Option (List Char)) :=
  match s with
  | first :: second :: rest =>
    if SchemeKind.file.isSlash first && SchemeKind.file.isSlash second then do
      let (host, behind) := rest.span fun c => !SchemeKind.file.endsAuthority c
      if isDrive host ∨ host.isEmpty then return none
      let host ← Host.ofDomain host
      if host = "localhost".toList ∨ startsWithDrive 0 (segmentsOf behind) then return none
      return some host
    else .ok none
  | _ => .ok none

/-- Reads an absolute address. -/
def parse (text : String) : Except UrlFault Url := do
  let some (scheme, rest) := splitScheme? (clean text.toList) | throw .relative
  let host ← match SchemeKind.ofName scheme with
    | .file => fileHost rest
    | .special => authority .special (rest.dropWhile SchemeKind.special.isSlash)
    | .other =>
      match rest with
      | '/' :: '/' :: rest => authority .other rest
      | _ => pure none
  return ⟨scheme, host.map String.ofList, queryOf rest⟩

/-- The names in the query, in order: each part before its `=`, with `+` read as a blank and percent
signs as bytes. -/
def queryNames (url : Url) : List String :=
  let parts := (url.query.getD []).splitOn '&'
  (parts.filter (!·.isEmpty)).map fun part =>
    let name := (part.takeWhile (· != '=')).map fun c => if c = '+' then ' ' else c
    String.ofList (Text.Utf8.decodeLossy (Percent.decode name))

end Url

end FieldRules.Web
