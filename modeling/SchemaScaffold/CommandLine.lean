import SchemaScaffold.CommandLine.Arguments
import SchemaScaffold.Log
import SchemaScaffold.Project
import SchemaScaffold.Stub.Publish

/-!
# The command line

The program reads its arguments, does what they ask for on a disk, and answers with an exit status
and with what it wrote to the error channel. All reports go there, as far as the filter lets them
pass. A wrong usage ends with status 2, a failure with status 1 and its reason as the last line.
-/

namespace SchemaScaffold.CommandLine

/-- What the program finds around it. -/
structure Environment where
  host : Frontend.Host
  /-- The log filter that is set, if there is one that can be read. -/
  logFilter : Option Log.Filter := none
  /-- The date as it stands in the names of migration files. -/
  today : String

/-- What the program leaves behind. -/
structure Result where
  status : Nat
  stderr : String
  disk : Disk

/-- The value of a setting, or the usual one. -/
def Given.value (given : Given) (setting : Setting) (usual : String) : String :=
  (given.settings.lookup setting).getD usual

/-- The layout that was asked for. -/
def layoutOf (today : String) (given : Given) : Layout :=
  let usual : Layout := { stamp := today }
  { base := given.value .basePath usual.base
    modelsDirectory := given.value .modelsDirectory usual.modelsDirectory
    migrationsDirectory := given.value .migrationsDirectory usual.migrationsDirectory
    stubsDirectory := given.value .stubsDirectory usual.stubsDirectory
    force := given.flags.contains .force
    stamp := today }

/-- How the external parser is to be run. -/
def parserSettingsOf (given : Given) : ParserSettings :=
  let usual : ParserSettings := {}
  { interpreter := given.value .interpreter usual.interpreter
    script := given.settings.lookup .parserScript
    timeout :=
      match (given.settings.lookup .timeout).bind seconds? with
      | some seconds => seconds * 1000
      | none => usual.timeout }

/-- The extension of the name of a file: what stands after its last dot, if something stands
before it. -/
def extension? (path : String) : Option String :=
  match (Disk.pathParts path).filter (fun part => part ≠ "" ∧ part ≠ ".") |>.getLast? with
  | none => none
  | some name =>
    if name = ".." then none
    else
      match Text.cutOnce '.' name.toList.reverse with
      | some (ending, stem) => if stem = [] then none else some (String.ofList ending.reverse)
      | none => none

/-- How a file is parsed: one with the extension of JSON holds JSON already. -/
def frontendOf (path : String) (given : Given) : Frontend :=
  if (extension? path).any (Text.eqIgnoringAsciiCase "json") then .json
  else .external (parserSettingsOf given)

/-- The filter for what is reported. -/
def filterOf (environment : Environment) (verbose : Bool) : Log.Filter :=
  environment.logFilter.getD (.downTo (if verbose then .debug else .info))

/-- The line for the reason of a failure. -/
def failureLine (message : String) : Log.Line := { level := .error, area := [], message }

/-- What is written of some lines. -/
def reported (filter : Log.Filter) (lines : List Log.Line) : String :=
  String.join ((lines.filter filter).map fun line => line.text ++ "\n")

/-- Do what was asked for: the lines that are reported, the disk, and the reason of a failure. -/
def perform (environment : Environment) (invocation : Invocation) (disk : Disk) :
    List Log.Line × Disk × Option String :=
  let layout := layoutOf environment.today invocation.given
  match invocation.command with
  | .generate =>
    let path := invocation.given.operands.headD ""
    let outcome := Project.generate environment.host
      { input := path, frontend := frontendOf path invocation.given, layout
        stubs := Stub.directorySource layout.stubsPath true } disk
    (outcome.lines, outcome.disk,
      match outcome.report with
      | .ok _ => none
      | .error error => some error.message)
  | .publishStubs =>
    let published := Stub.publish layout.stubsPath layout.force disk
    (published.events.map (·.line), published.disk, published.fault.map (·.message))

/-- Run the program. -/
def run (environment : Environment) (arguments : List String) (disk : Disk) : Result :=
  match read arguments with
  | .error .help => { status := 0, stderr := "", disk }
  | .error .wrongUsage => { status := 2, stderr := "", disk }
  | .ok invocation =>
    let filter := filterOf environment invocation.verbose
    let (lines, disk, failure) := perform environment invocation disk
    match failure with
    | none => { status := 0, stderr := reported filter lines, disk }
    | some message =>
      { status := 1, stderr := reported filter (lines ++ [failureLine message]), disk }

end SchemaScaffold.CommandLine
