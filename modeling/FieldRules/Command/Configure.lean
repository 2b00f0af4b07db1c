import FieldRules.Command.Job
import FieldRules.Configuration.Basic
import FieldRules.Json.Read
import FieldRules.Toml.Read

/-!
Where configurations are read from.
-/

namespace FieldRules.Configuration

open Command

/-- The configuration in a YAML text. A text without a document says nothing. -/
def ofYaml? (text : String) : Option Configuration :=
  match Yaml.document? text with
  | none => none
  | some none => some {}
  | some (some root) => ofEntry? (.ofYaml root.anchored 2 root)

def ofJson? (text : String) : Option Configuration :=
  (Json.readRepeating? text).bind fun v => ofEntry? (.ofJson v)

def ofToml? (text : String) : Option Configuration :=
  (Toml.read? text).bind fun members => ofEntry? (.ofToml (.table members))

/-- The configuration in the text of a file, in the format of its extension. -/
def ofText (path text : String) : Except Failure Configuration :=
  let orFail (failure : Failure) : Option Configuration → Except Failure Configuration
    | some configuration => .ok configuration
    | none => .error failure
  match Disk.Path.extension? path with
  | some "yaml" | some "yml" => orFail .yamlText (ofYaml? text)
  | some "toml" => orFail .tomlText (ofToml? text)
  | some "json" => orFail .jsonText (ofJson? text)
  | _ => .error (.wrongContent path "YAML, JSON or TOML")

/-- Reads the configuration in a file. -/
def readFile (path : String) : Job Configuration := do
  Job.require path
  let text ← Job.read path
  Job.ofExcept id (ofText path text)

/-- The files that are looked for where none is given: in the working directory, and in the
directory where programs keep their configurations. -/
def usualPaths (home : Option String) : List String :=
  [".schematics.yaml", ".schematics.yml", ".schematics.json", ".schematics.toml"]
    ++ match home with
      | some home =>
        ["yaml", "json", "toml"].map fun extension => s!"{home}/schematics/config.{extension}"
      | none => []

/-- Reads the first of the files that is there and holds a configuration. Without any the defaults
hold. -/
def search : List String → Job Configuration
  | [] => return {}
  | path :: rest => do
    if ← Job.isThere path then
      tryCatch (readFile path) fun _ => search rest
    else search rest

/-- Reads the given file, or else the usual ones. -/
def load (file home : Option String) : Job Configuration :=
  match file with
  | some path => readFile path
  | none => search (usualPaths home)

end FieldRules.Configuration
