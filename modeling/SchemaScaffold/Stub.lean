import SchemaScaffold.Disk.Basic
import SchemaScaffold.Stub.Packaged
import SchemaScaffold.Text.Replaced

/-!
# Stubs

A stub is the text of a file with named places in double braces. The places are filled one name
after another, each in the whole text, so a value that itself spells a place whose turn is still
to come is filled as well. Where stubs come from is a function, so that packaged stubs, a stub
directory and any other source are used alike.
-/

namespace SchemaScaffold

/-- The files that stubs are for. -/
inductive StubKind
  | model
  | migration
  deriving DecidableEq, Repr

namespace StubKind

/-- All kinds, in the order in which they are published. -/
def all : List StubKind := [model, migration]

/-- The name of the file that holds the stub. -/
def fileName : StubKind → String
  | model => "model.stub"
  | migration => "migration.stub"

/-- The kind in messages. -/
def label : StubKind → String
  | model => "Model"
  | migration => "Migration"

/-- The packaged stub. -/
def packaged : StubKind → String
  | model => Stub.packagedModel
  | migration => Stub.packagedMigration

end StubKind

/-- Why a file could not be rendered. -/
inductive RenderError
  | stubMissing (kind : StubKind)
  | reservedName (table name : String)
  | unreadable (path : String) (fault : Disk.Fault)
  deriving DecidableEq, Repr

/-- The words for a render error. -/
def RenderError.message : RenderError → String
  | stubMissing kind => kind.label ++ " stub not found"
  | reservedName table name => "table " ++ table ++ " maps to reserved class name " ++ name
  | unreadable path fault => "failed to read " ++ path ++ ": " ++ fault.message

namespace Stub

/-- How a place is written in a stub. -/
def place (name : String) : String := "\x7b\x7b " ++ name ++ " \x7d\x7d"

/-- Fill the named places one name after another. -/
def fill (stub : String) (values : List (String × String)) : String :=
  values.foldl (fun text (name, value) => Text.replaceAll (place name) value text) stub

/-! ## Sources -/

/-- Where stubs come from; a source may have no stub of a kind. -/
abbrev Loader := StubKind → Except RenderError (Option String)

/-- Stubs as they are on a disk at some moment. -/
abbrev Source := Disk → Loader

/-- A stub that has to be there. -/
def require (loader : Loader) (kind : StubKind) : Except RenderError String :=
  match loader kind with
  | .error error => .error error
  | .ok none => .error (.stubMissing kind)
  | .ok (some stub) => .ok stub

/-- The packaged stubs. -/
def packagedLoader : Loader := fun kind => .ok (some kind.packaged)

/-- The stubs in a directory. What is missing there is taken from the packaged stubs, or else is
missing. -/
def directorySource (directory : String) (orPackaged : Bool) : Source := fun disk kind =>
  let path := Disk.joinPath directory kind.fileName
  if disk.isFile path then
    match disk.readText path with
    | .ok text => .ok (some text)
    | .error fault => .error (.unreadable path fault)
  else if orPackaged then packagedLoader kind
  else .ok none

end Stub

end SchemaScaffold
