import FieldRules.Document.Fault

/-!
The failures of commands, their wording, and the codes with which they end a program.
-/

namespace FieldRules.Command

/-- Why a command ends without success. -/
inductive Failure where
  | disk (fault : DiskFault)
  | engine (error : Error)
  | load (error : Document.LoadError)
  | notFound (path : String)
  /-- A file holds something else than is wanted. -/
  | wrongContent (path wanted : String)
  | arguments (reason : String)
  /-- The data is not valid. -/
  | refused (count : Nat)
  | jsonText
  | yamlText
  | tomlText
  deriving DecidableEq

namespace Failure

def exitCode : Failure → Nat
  | .disk _ => 1
  | .engine _ => 2
  | .notFound _ => 3
  | .wrongContent .. => 4
  | .arguments _ => 6
  | .load _ => 7
  | .jsonText => 12
  | .yamlText => 13
  | .tomlText => 14
  | .refused _ => 20

def message : Failure → String
  | .disk fault => "IO error: " ++ fault.message
  | .engine error => "Engine error: " ++ error.message
  | .load error => error.message
  | .notFound path => "File not found: " ++ path
  | .wrongContent path wanted => s!"Invalid file format for {path}: expected {wanted}"
  | .arguments reason => "Invalid arguments: " ++ reason
  | .refused count => s!"Validation failed with {count} error(s)"
  | .jsonText => "JSON error: " ++ Document.detail
  | .yamlText => "YAML error: " ++ Document.detail
  | .tomlText => "TOML error: " ++ Document.detail

/-- The name of the failure's class, behind the name of its origin where that has classes of its
own. -/
def className : Failure → String
  | .disk _ => "Io"
  | .engine error => "Core." ++ error.className
  | .load error => "Loader." ++ error.className
  | .notFound _ => "FileNotFound"
  | .wrongContent .. => "InvalidFormat"
  | .arguments _ => "InvalidArgs"
  | .refused _ => "ValidationFailed"
  | .jsonText => "Json"
  | .yamlText => "Yaml"
  | .tomlText => "Toml"

/-- The reader is told how to get help. -/
def showsHelp : Failure → Bool
  | .arguments _ => true
  | _ => false

/-- The line that is shown for a failure. -/
def line (failure : Failure) (color : Bool) : String :=
  (if color then "\x1b[1;31mError:\x1b[0m " else "Error: ") ++ failure.message

end Failure

end FieldRules.Command
