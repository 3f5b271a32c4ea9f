import SchemaScaffold.Frontend
import SchemaScaffold.Generation

/-!
# From a schema file to the files of a project

A run reads a schema file, makes a catalog of its text, links the catalog and generates the files
of all tables. It fails only before anything is generated: when there is no such file, when the
file is no text, and when the text is no schema.
-/

namespace SchemaScaffold.Project

/-- Why nothing was generated. -/
inductive Error
  | inputMissing (path : String)
  | unreadable (path : String) (fault : Disk.Fault)
  | notParsed (error : Frontend.Error)
  deriving DecidableEq, Repr

/-- The words for an error. -/
def Error.message : Error → String
  | inputMissing path => "File not found: " ++ path
  | unreadable path fault => "failed to read " ++ path ++ ": " ++ fault.message
  | notParsed error => "Failed to parse DBML file: " ++ error.message

/-- What is to be generated from which file, and how. -/
structure Request where
  input : String
  frontend : Frontend
  layout : Layout
  stubs : Stub.Source

/-- What a run came to: its report or the reason why there is none, what is to be told, and the
disk it leaves behind. -/
structure Outcome where
  report : Except Error Generation.Report
  lines : List Log.Line := []
  disk : Disk

/-- The text of the schema file. -/
def readInput (path : String) (disk : Disk) : Except Error String :=
  if disk.isFile path then (disk.readText path).mapError (.unreadable path)
  else .error (.inputMissing path)

/-- Generate the files of a catalog. -/
def generateFrom (layout : Layout) (stubs : Stub.Source) (catalog : Catalog) (disk : Disk) :
    Generation.Report × List Log.Line × Disk :=
  let progress := Generation.run layout stubs (Schema.ofCatalog catalog) disk
  (progress.report,
    (Schema.omissions catalog).map (·.line) ++ progress.events.map (·.line), progress.disk)

/-- Generate the files of the schema that a parser makes of the text in a file. -/
def generateWith (parse : String → Disk → Frontend.Parsed) (input : String) (layout : Layout)
    (stubs : Stub.Source) (disk : Disk) : Outcome :=
  match readInput input disk with
  | .error error => { report := .error error, disk }
  | .ok source =>
    let parsed := parse source disk
    match parsed.catalog with
    | .error error =>
      { report := .error (.notParsed error), lines := parsed.lines, disk := parsed.disk }
    | .ok catalog =>
      let (report, lines, disk) := generateFrom layout stubs catalog parsed.disk
      { report := .ok report, lines := parsed.lines ++ lines, disk }

/-- Generate the files that a request asks for. -/
def generate (host : Frontend.Host) (request : Request) (disk : Disk) : Outcome :=
  generateWith (request.frontend.parse host) request.input request.layout request.stubs disk

end SchemaScaffold.Project
