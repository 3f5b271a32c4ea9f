import SchemaScaffold.Frontend
import SchemaScaffold.Layout
import SchemaScaffold.Text.Separated

/-!
# Arguments of the command line

Arguments are read from left to right, and what comes first decides: a request for help before any
mistake is granted, and any mistake before it is a wrong usage. Flags and settings are given at
most once on each level. After a lone `--` every argument is an operand.
-/

namespace SchemaScaffold.CommandLine

/-- Why arguments ask for nothing to be done. -/
inductive Stop
  | help
  | wrongUsage
  deriving DecidableEq, Repr

/-- Arguments that stand for themselves. -/
inductive Flag
  | verbose
  | force
  deriving DecidableEq, Repr

namespace Flag

/-- The name of a flag after two dashes. -/
def name : Flag → String
  | verbose => "verbose"
  | force => "force"

/-- The letter of a flag after one dash. -/
def letter : Flag → Char
  | verbose => 'v'
  | force => 'f'

end Flag

/-- Arguments that take a value. -/
inductive Setting
  | basePath
  | modelsDirectory
  | migrationsDirectory
  | stubsDirectory
  | interpreter
  | parserScript
  | timeout
  deriving DecidableEq, Repr

/-- The greatest number of seconds that can be given. -/
def greatestTimeout : Nat := 0xffffffffffffffff

/-- The seconds that a text spells in decimal digits, maybe after a plus sign. -/
def seconds? (text : String) : Option Nat :=
  let digits := if text.toList.head? = some '+' then text.toList.drop 1 else text.toList
  if digits ≠ [] ∧ digits.all Char.isDigit then
    let seconds := digits.foldl (fun value c => value * 10 + (c.toNat - '0'.toNat)) 0
    if seconds ≤ greatestTimeout then some seconds else none
  else none

namespace Setting

/-- The name of a setting after two dashes. -/
def name : Setting → String
  | basePath => "base-path"
  | modelsDirectory => "models-dir"
  | migrationsDirectory => "migrations-dir"
  | stubsDirectory => "stubs-dir"
  | interpreter => "node"
  | parserScript => "parser-script"
  | timeout => "timeout"

/-- Whether a setting can have a value. Paths are not empty. -/
def accepts (setting : Setting) (value : String) : Bool :=
  match setting with
  | interpreter => true
  | timeout => (seconds? value).isSome
  | _ => value ≠ ""

end Setting

/-- What a command takes. -/
structure Grammar where
  flags : List Flag
  settings : List Setting
  /-- The greatest number of operands. They are paths. -/
  operands : Nat

/-- What was given to a command. -/
structure Given where
  flags : List Flag := []
  settings : List (Setting × String) := []
  operands : List String := []
  deriving DecidableEq, Repr

namespace Given

/-- Take a flag, unless it was given before. -/
def addFlag (given : Given) (flag : Flag) : Except Stop Given :=
  if given.flags.contains flag then .error .wrongUsage
  else .ok { given with flags := given.flags ++ [flag] }

/-- Take the value of a setting, unless it has one or the value is none for it. -/
def addSetting (given : Given) (setting : Setting) (value : String) : Except Stop Given :=
  if setting.accepts value ∧ (given.settings.lookup setting).isNone then
    .ok { given with settings := given.settings ++ [(setting, value)] }
  else .error .wrongUsage

/-- Take an operand, if there is room for it. -/
def addOperand (grammar : Grammar) (given : Given) (operand : String) : Except Stop Given :=
  if given.operands.length < grammar.operands ∧ operand ≠ "" then
    .ok { given with operands := given.operands ++ [operand] }
  else .error .wrongUsage

end Given

/-- How an argument is written. -/
inductive Form
  | separator
  | long (name : String) (attached : Option String)
  | short (letters : List Char)
  | operand
  deriving DecidableEq, Repr

/-- The form of an argument. A lone dash is an operand. -/
def Form.ofText (text : String) : Form :=
  match text.toList with
  | ['-', '-'] => .separator
  | '-' :: '-' :: rest =>
    match Text.cutOnce '=' rest with
    | some (name, value) => .long (String.ofList name) (some (String.ofList value))
    | none => .long (String.ofList rest) none
  | '-' :: c :: rest => .short (c :: rest)
  | _ => .operand

/-- Take letters after one dash. -/
def addLetters (grammar : Grammar) : Given → List Char → Except Stop Given
  | given, [] => .ok given
  | given, c :: rest =>
    if c = 'h' then .error .help
    else
      match grammar.flags.find? (·.letter = c) with
      | some flag => (given.addFlag flag).bind fun given => addLetters grammar given rest
      | none => .error .wrongUsage

/-- Read the arguments of a command. -/
def readArguments (grammar : Grammar) : Given → List String → Except Stop Given
  | given, [] => .ok given
  | given, argument :: rest =>
    match Form.ofText argument with
    | .separator => rest.foldlM (Given.addOperand grammar) given
    | .operand =>
      (given.addOperand grammar argument).bind fun given => readArguments grammar given rest
    | .short letters =>
      (addLetters grammar given letters).bind fun given => readArguments grammar given rest
    | .long name attached =>
      if name = "help" then .error (if attached.isSome then .wrongUsage else .help)
      else
        match grammar.flags.find? (·.name = name), grammar.settings.find? (·.name = name) with
        | some flag, _ =>
          if attached.isSome then .error .wrongUsage
          else (given.addFlag flag).bind fun given => readArguments grammar given rest
        | none, some setting =>
          match attached, rest with
          | some value, rest =>
            (given.addSetting setting value).bind fun given => readArguments grammar given rest
          | none, value :: rest =>
            if Form.ofText value = .operand then
              (given.addSetting setting value).bind fun given => readArguments grammar given rest
            else .error .wrongUsage
          | none, [] => .error .wrongUsage
        | none, none => .error .wrongUsage

/-- The commands. -/
inductive Command
  | generate
  | publishStubs
  deriving DecidableEq, Repr

namespace Command

/-- The command of a name. -/
def ofName? (name : String) : Option Command :=
  match name with
  | "generate" => some generate
  | "publish-stubs" => some publishStubs
  | _ => none

/-- What a command takes. -/
def grammar : Command → Grammar
  | generate =>
    { flags := [.verbose, .force]
      settings := [.basePath, .modelsDirectory, .migrationsDirectory, .stubsDirectory,
        .interpreter, .parserScript, .timeout]
      operands := 1 }
  | publishStubs =>
    { flags := [.verbose, .force], settings := [.basePath, .stubsDirectory], operands := 0 }

end Command

/-- A command with what was given to it. -/
structure Invocation where
  command : Command
  verbose : Bool
  given : Given
  deriving DecidableEq, Repr

/-- What a request for help about a command comes to. -/
def readHelp : List String → Stop
  | [] => .help
  | [name] => if name = "help" ∨ (Command.ofName? name).isSome then .help else .wrongUsage
  | _ => .wrongUsage

/-- Read what stands before the command, and the command with its arguments. -/
def readFrom : Given → List String → Except Stop Invocation
  | _, [] => .error .wrongUsage
  | before, argument :: rest =>
    match Command.ofName? argument with
    | some command =>
      (readArguments command.grammar {} rest).map fun given =>
        { command, given
          verbose := before.flags.contains .verbose || given.flags.contains .verbose }
    | none =>
      if argument = "help" then .error (readHelp rest)
      else
        match Form.ofText argument with
        | .short letters =>
          (addLetters ⟨[.verbose], [], 0⟩ before letters).bind fun before =>
            readFrom before rest
        | .long name none =>
          if name = "help" then .error .help
          else if name = Flag.verbose.name then
            (before.addFlag .verbose).bind fun before => readFrom before rest
          else .error .wrongUsage
        | _ => .error .wrongUsage

/-- Read the arguments of the program. A file to generate from has to be given. -/
def read (arguments : List String) : Except Stop Invocation :=
  match readFrom {} arguments with
  | .error stop => .error stop
  | .ok invocation =>
    if invocation.command = .generate ∧ invocation.given.operands = [] then .error .wrongUsage
    else .ok invocation

end SchemaScaffold.CommandLine
