import SchemaScaffold.Catalog.OfText
import SchemaScaffold.Frontend.Bundled
import SchemaScaffold.Frontend.Host
import SchemaScaffold.Log
import SchemaScaffold.Process.Watch

/-!
# Front ends: from the text of a schema to its catalog

A schema is either JSON already, or it is given to an external parser that prints JSON. The
external parser is an interpreter that runs a parser script; it is watched up to a deadline, and
what it printed is used only if it ended well and everything that it printed was read.
-/

namespace SchemaScaffold

/-- How an external parser is run. -/
structure ParserSettings where
  /-- The name or the path of the interpreter. -/
  interpreter : String := "node"
  /-- The script to run in place of the bundled one. -/
  script : Option String := none
  /-- Milliseconds until the deadline. -/
  timeout : Nat := 30000
  deriving DecidableEq, Repr

/-- How a text becomes a catalog. -/
inductive Frontend
  /-- The text is JSON. -/
  | json
  /-- An external parser makes JSON of the text. -/
  | external (settings : ParserSettings)
  deriving DecidableEq, Repr

namespace Frontend

/-- Why a text became no catalog. -/
inductive Error
  | scriptMissing (path : String)
  | interpreterMissing (name : String)
  | notStarted (fault : Disk.Fault)
  | outOfTime (seconds : Nat)
  | failed (message : String)
  | unreadable (error : Catalog.ReadError)
  deriving DecidableEq, Repr

/-- The words for an error. -/
def Error.message : Error → String
  | scriptMissing path => "parser script not found: " ++ path
  | interpreterMissing name => "node executable \x60" ++ name ++ "\x60 not found"
  | notStarted fault => "failed to start parser: " ++ fault.message
  | outOfTime seconds => "parser timed out after " ++ toString seconds ++ "s"
  | failed message => message
  | unreadable error => error.message

/-- The program and the arguments that run a parser. The interpreter is looked for first. -/
def commandOf (host : Host) (disk : Disk) (settings : ParserSettings) :
    Except Error (Program × List String) :=
  match host settings.interpreter with
  | none => .error (.interpreterMissing settings.interpreter)
  | some program =>
    match settings.script with
    | none => .ok (program, ["-e", bundledScript])
    | some path => if disk.isFile path then .ok (program, [path]) else .error (.scriptMissing path)

/-- The text of some bytes; bytes that are no text are as good as none. -/
def textOrNothing (bytes : List UInt8) : String := (Text.Utf8.text? bytes).getD ""

/-- The reason that a failed parser gives. -/
def failureReason (stderr : List UInt8) : String :=
  let message := Text.trim (textOrNothing stderr)
  if message = "" then "parse failed" else message

/-- What a finding means: the text that was printed, or the reason why there is none. -/
def textOf (settings : ParserSettings) : Process.Finding → Except Error String
  | .ended status stdout stderr =>
    if status.isSuccess then .ok (textOrNothing stdout) else .error (.failed (failureReason stderr))
  | .outOfTime => .error (.outOfTime (settings.timeout / 1000))

/-- The moment of the last regular look before a process is killed. -/
def lastLook (deadline : Nat) : Nat :=
  (deadline + Process.lookInterval - 1) / Process.lookInterval * Process.lookInterval

/-- Run an external parser: what it printed, and the disk that it leaves behind. -/
def printedBy (host : Host) (settings : ParserSettings) (source : String) (disk : Disk) :
    Except Error String × Disk :=
  match commandOf host disk settings with
  | .error error => (.error error, disk)
  | .ok (program, args) =>
    match program args (Text.Utf8.encode source) disk (lastLook settings.timeout) with
    | .error fault => (.error (.notStarted fault), disk)
    | .ok (course, disk) =>
      (textOf settings (Process.watch .regular course settings.timeout).1, disk)

/-- What became of a text: the catalog, what is to be told, and the disk. -/
structure Parsed where
  catalog : Except Error Catalog
  lines : List Log.Line := []
  disk : Disk

/-- The log line for a text that an external parser printed. -/
def printedLine (text : String) : Log.Line :=
  { level := .debug, area := ["parser", "node"]
    message := "parser produced " ++ toString text.utf8ByteSize ++ " bytes" }

/-- Read the catalog out of a text. -/
def readCatalog (text : String) : Except Error Catalog := (Catalog.ofText text).mapError .unreadable

/-- Parse a text. -/
def parse (frontend : Frontend) (host : Host) (source : String) (disk : Disk) : Parsed :=
  match frontend with
  | .json => { catalog := readCatalog source, disk }
  | .external settings =>
    match printedBy host settings source disk with
    | (.error error, disk) => { catalog := .error error, disk }
    | (.ok text, disk) => { catalog := readCatalog text, lines := [printedLine text], disk }

end Frontend

end SchemaScaffold
