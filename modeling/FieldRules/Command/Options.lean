import FieldRules.Text.Search

/-!
The grammar of command lines: a level of options, at most one operand, and subcommands that open a
level of their own.

Options are read one after the other. The value of an option or operand is checked when the next one
starts, so that what stands behind it decides which of two faults is reported.
-/

namespace FieldRules.Command

/-- Why a command line is not carried out. -/
inductive UsageFault where
  | helpWanted
  | versionWanted
  /-- Nothing is given at all. -/
  | nothingGiven
  | missingSubcommand
  | unknownSubcommand
  | missingArgument
  | unknownArgument
  | badValue
  | conflict
  | tooManyValues
  deriving DecidableEq, Repr

namespace UsageFault

/-- The name of the fault's class. -/
def className : UsageFault → String
  | .helpWanted => "DisplayHelp"
  | .versionWanted => "DisplayVersion"
  | .nothingGiven => "DisplayHelpOnMissingArgumentOrSubcommand"
  | .missingSubcommand => "MissingSubcommand"
  | .unknownSubcommand => "InvalidSubcommand"
  | .missingArgument => "MissingRequiredArgument"
  | .unknownArgument => "UnknownArgument"
  | .badValue => "InvalidValue"
  | .conflict => "ArgumentConflict"
  | .tooManyValues => "TooManyValues"

/-- Asking for help or the version is no mistake. -/
def exitCode : UsageFault → Nat
  | .helpWanted | .versionWanted => 0
  | _ => 2

end UsageFault

/-- The values that are accepted. -/
inductive ValueKind where
  | text
  /-- A path, which is not empty. -/
  | path
  | choice (names : List String)
  deriving DecidableEq, Repr

def ValueKind.accepts : ValueKind → String → Bool
  | .text, _ => true
  | .path, s => !s.isEmpty
  | .choice names, s => names.contains s

/-- What an option does. -/
inductive OptionKind where
  | help | version
  /-- May be given once. -/
  | switch
  /-- May be given many times, and counts. -/
  | counter
  /-- Has a value and may be given once. -/
  | setting (kind : ValueKind)
  deriving DecidableEq, Repr

/-- An option. -/
structure OptionSpec where
  name : String
  letter : Option Char
  kind : OptionKind
  deriving DecidableEq, Repr

/-- What can be given at a level. -/
structure Grammar where
  options : List OptionSpec
  operand : Option ValueKind := none
  subcommands : List String := []

namespace Grammar

def byName? (grammar : Grammar) (name : String) : Option OptionSpec :=
  grammar.options.find? (·.name == name)

def byLetter? (grammar : Grammar) (letter : Char) : Option OptionSpec :=
  grammar.options.find? (·.letter == some letter)

/-- The word for help counts as a subcommand where there are others. -/
def isSubcommand (grammar : Grammar) (word : String) : Bool :=
  grammar.subcommands.contains word || (!grammar.subcommands.isEmpty && word == "help")

end Grammar

/-- The name under which the value of an operand is kept. -/
def operandName : String := "operand"

/-- What has been given at a level. -/
structure Given where
  values : List (String × String) := []
  switches : List String := []
  /-- How often counters have been given, up to 255 times. -/
  counts : List (String × Nat) := []
  /-- An option or operand and its value, which has not been checked yet; an option may still wait
  for it. -/
  pending : Option (String × ValueKind × Option String) := none
  operandSeen : Bool := false
  deriving Inhabited

namespace Given

def value? (given : Given) (name : String) : Option String := given.values.lookup name

def has (given : Given) (name : String) : Bool := given.switches.contains name

def count (given : Given) (name : String) : Nat := (given.counts.lookup name).getD 0

/-- Nothing has been given. -/
def isEmpty (given : Given) : Bool :=
  given.values.isEmpty && given.switches.isEmpty && given.counts.isEmpty

/-- An option waits for its value. -/
def waits (given : Given) : Bool :=
  match given.pending with
  | some (_, _, none) => true
  | _ => false

/-- Takes a value, which has to be there, the only one, and accepted. -/
def take (given : Given) (name : String) (kind : ValueKind) (value : Option String) :
    Except UsageFault Given :=
  match value with
  | none => .error .badValue
  | some value =>
    if (given.value? name).isSome then .error .conflict
    else if kind.accepts value then .ok { given with values := given.values ++ [(name, value)] }
    else .error .badValue

/-- Takes the value that has not been checked yet. -/
def settle (given : Given) : Except UsageFault Given :=
  match given.pending with
  | none => .ok given
  | some (name, kind, value) => { given with pending := none }.take name kind value

/-- Gives an option, with the value that is attached to it. -/
def giveOption (given : Given) (spec : OptionSpec) (attached : Option String) :
    Except UsageFault Given := do
  match spec.kind, attached with
  | .setting kind, none => return { ← given.settle with pending := some (spec.name, kind, none) }
  | .setting kind, some value => (← given.settle).take spec.name kind (some value)
  | _, some _ => throw .tooManyValues
  | .help, none =>
    let _ ← given.settle
    throw .helpWanted
  | .version, none =>
    let _ ← given.settle
    throw .versionWanted
  | .switch, none =>
    let given ← given.settle
    if given.has spec.name then throw .conflict
    return { given with switches := spec.name :: given.switches }
  | .counter, none =>
    let given ← given.settle
    let others := given.counts.filter (·.1 != spec.name)
    return { given with counts := (spec.name, min (given.count spec.name + 1) 255) :: others }

/-- Gives the options whose letters follow one another. What stands behind one with a value is its
value. -/
def giveLetters (grammar : Grammar) (given : Given) : List Char → Except UsageFault Given
  | [] => .ok given
  | letter :: rest =>
    match grammar.byLetter? letter with
    | none => .error .unknownArgument
    | some spec =>
      match spec.kind, rest with
      | .setting _, '=' :: value => given.giveOption spec (some (String.ofList value))
      | .setting _, c :: value => given.giveOption spec (some (String.ofList (c :: value)))
      | _, _ => do giveLetters grammar (← given.giveOption spec none) rest

/-- Gives an option by its name, behind which an equals sign attaches a value. -/
def giveName (grammar : Grammar) (given : Given) (word : List Char) : Except UsageFault Given :=
  let (name, attached) := match Text.splitOnce? ['='] word with
    | some (name, value) => (name, some (String.ofList value))
    | none => (word, none)
  match grammar.byName? (String.ofList name) with
  | some spec => given.giveOption spec attached
  | none => .error .unknownArgument

/-- Gives the operand. A word that cannot be one is a wrong subcommand or too much. -/
def giveOperand (grammar : Grammar) (given : Given) (onlyOperands : Bool) (word : String) :
    Except UsageFault Given := do
  match grammar.operand, given.operandSeen with
  | some kind, false =>
    return { ← given.settle with
      pending := some (operandName, kind, some word), operandSeen := true }
  | _, _ =>
    if grammar.subcommands.isEmpty || (onlyOperands && grammar.isSubcommand word) then
      throw .unknownArgument
    else throw .unknownSubcommand

/-- Gives the words of a level up to a subcommand, which is returned with the words behind it.
Behind two hyphens there are only operands. -/
def giveWords (grammar : Grammar) (given : Given) (onlyOperands : Bool) :
    List String → Except UsageFault (Given × Option (String × List String))
  | [] => .ok (given, none)
  | word :: rest => do
    if onlyOperands then
      giveWords grammar (← given.giveOperand grammar true word) true rest
    else if !given.waits && grammar.isSubcommand word then
      return (given, some (word, rest))
    else
      match word.toList with
      | ['-', '-'] => giveWords grammar given true rest
      | '-' :: '-' :: name => giveWords grammar (← given.giveName grammar name) false rest
      | '-' :: letter :: letters =>
        giveWords grammar (← given.giveLetters grammar (letter :: letters)) false rest
      | _ =>
        match given.pending with
        | some (name, kind, none) =>
          giveWords grammar { given with pending := some (name, kind, some word) } false rest
        | _ => giveWords grammar (← given.giveOperand grammar false word) false rest

end Given

end FieldRules.Command
