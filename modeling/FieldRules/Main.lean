import FieldRules.Command.Run
import Std.Time.DateTime.Timestamp

/-!
The program: carries out the plan of a call with the files, the input and the output of its process.
-/

open FieldRules FieldRules.Command

/-- The fault that an operation of the system reports. -/
def diskFault (fault : IO.Error) : DiskFault :=
  match fault with
  | .noFileOrDirectory .. => .notFound
  | .alreadyExists .. => .fileExists
  | other => .other (toString other)

/-- An operation whose fault is part of the answer. -/
def attempt {α : Type} (operation : IO α) : IO (Except DiskFault α) := do
  try
    return .ok (← operation)
  catch fault => return .error (diskFault fault)

def textOfBytes (bytes : ByteArray) : Except DiskFault String := Text.ofBytes bytes.toList

/-- Makes the directories that lead to a file, and writes it. -/
def saveFile (path text : String) : IO Unit := do
  let way := (Disk.Path.names path).dropLast
  unless way.isEmpty do
    IO.FS.createDirAll ((if path.startsWith "/" then "/" else "") ++ "/".intercalate way)
  IO.FS.writeFile path text

/-- Carries out a plan. -/
def FieldRules.Plan.carryOut {α : Type} : Plan α → IO α
  | .done result => return result
  | .probe path next => do
    let found ← attempt (IO.FS.realPath path)
    (next found.toBool).carryOut
  | .read path next => do
    let bytes ← attempt (IO.FS.readBinFile path)
    (next (bytes.bind textOfBytes)).carryOut
  | .input next => do
    let bytes ← attempt (do (← IO.getStdin).readToEnd)
    (next (bytes.map id)).carryOut
  | .save path text next => do
    let saved ← attempt (saveFile path text)
    (next saved).carryOut
  | .print text rest => do
    let output ← IO.getStdout
    output.putStr text
    output.flush
    rest.carryOut

/-- The present. -/
def present : IO Calendar.Instant := do
  let now ← Std.Time.Timestamp.now
  return ⟨now.toSecondsSinceUnixEpoch.val, 0⟩

/-- The directory where programs keep their configurations. -/
def configurationHome : IO (Option String) := do
  match ← IO.getEnv "XDG_CONFIG_HOME", ← IO.getEnv "HOME" with
  | some directory, home =>
    return if directory.startsWith "/" then some directory else home.map (· ++ "/.config")
  | none, home => return home.map (· ++ "/.config")

/-- What is shown for a command line that is not carried out. -/
def usageText : UsageFault → String
  | .versionWanted => "field-rules 0.1.0"
  | .helpWanted =>
    "Usage: field-rules [OPTIONS] <validate|operate|flatten|deflate|completions> [ARGUMENTS]"
  | fault => s!"error: {fault.className}\n\nFor more information, try '--help'."

def main (words : List String) : IO UInt32 := do
  match Invocation.read (← IO.getEnv "SCHEMATICS_CONFIG") words with
  | .error fault =>
    let output ← if fault.exitCode = 0 then IO.getStdout else IO.getStderr
    output.putStrLn (usageText fault)
    return fault.exitCode.toUInt32
  | .ok invocation =>
    let color ← (← IO.getStdout).isTty
    let surroundings := { home := ← configurationHome, color, now := ← present }
    let outcome ← (invocation.plan surroundings).carryOut
    if let some failure := outcome.failure then
      let output ← IO.getStderr
      output.putStrLn (failure.line outcome.color)
      if failure.showsHelp then output.putStrLn "\nFor more information, try '--help'"
    return outcome.exitCode.toUInt32
