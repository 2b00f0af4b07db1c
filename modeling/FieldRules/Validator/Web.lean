import FieldRules.Attribute
import FieldRules.Validator.Text
import FieldRules.Web.Url

/-!
Validators of web addresses.
-/

namespace FieldRules.Validator

open FieldRules.Web

/-- An absolute address of a page: `http` or `https`, and a host with a dot in its name. -/
def isPageAddress (text : String) : Bool :=
  match Url.parse text with
  | .ok url =>
    (url.scheme == "http" || url.scheme == "https") && url.host.any (·.toList.contains '.')
  | .error _ => false

def isUrl : Validator := fun v _ => do
  let text ← v.expectText
  require (isPageAddress text) s!"{text} is not a valid url"

def isNotUrl : Validator := fun v _ => do
  let text ← v.expectText
  require (!isPageAddress text) s!"{text} is a url"

/-- The address that a text holds. -/
def expectUrl (text : String) : Except Complaint Url :=
  match Url.parse text with
  | .ok url => .ok url
  | .error fault => .error (s!"{text} is not a valid url: " ++ fault.message)

/-- The host ends with the attribute `HostName`. -/
def haveUrlHostName : Validator := fun v attributes => do
  let text ← v.expectText
  let expected ← attributes.text "HostName"
  let host := (← expectUrl text).host.getD ""
  require (expected.toList.isSuffixOf host.toList)
    s!"{text} has host name {host} instead of {expected}"

/-- The names between commas, without white space around them and without empty ones. -/
def commaSeparated (text : String) : List String :=
  ((text.toList.splitOn ',').map fun part => Text.trim (String.ofList part)).filter (!·.isEmpty)

/-- The query holds every name of the attribute `params`. -/
def haveQueryParameter : Validator := fun v attributes => do
  let text ← v.expectText
  let names ← attributes.text "params"
  let given := (← expectUrl text).queryNames
  match (commaSeparated names).find? (!given.contains ·) with
  | some name => throw s!"url {text} is missing parameter: {name}"
  | none => return

def isHttps : Validator := fun v _ => do
  let text ← v.expectText
  require ((← expectUrl text).scheme == "https") s!"url {text} is not https"

end FieldRules.Validator
