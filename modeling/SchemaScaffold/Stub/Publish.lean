import SchemaScaffold.Log
import SchemaScaffold.Stub

/-!
# Publishing the packaged stubs

A project that wants stubs of its own starts from copies of the packaged ones. Copies that are
there already are left alone unless that is asked for.
-/

namespace SchemaScaffold.Stub

/-- Something worth telling about publishing. -/
inductive PublishEvent
  | kept (path : String)
  | published (path : String)
  deriving DecidableEq, Repr

/-- The log line for an event. -/
def PublishEvent.line : PublishEvent → Log.Line
  | kept path =>
    { level := .warn, area := ["render", "template"]
      message := "Stub " ++ path ++ " already exists. Use --force to overwrite." }
  | published path =>
    { level := .info, area := ["render", "template"], message := "Published " ++ path }

/-- Publishing so far: the paths that were written, what is to be told, the disk, and the fault
at which it stopped, if it did. -/
structure Published where
  written : List String := []
  events : List PublishEvent := []
  disk : Disk
  fault : Option Disk.Fault := none

/-- Publish the stub of one kind, unless publishing has stopped. -/
def Published.add (directory : String) (force : Bool) (done : Published) (kind : StubKind) :
    Published :=
  if done.fault.isSome then done
  else
    let path := Disk.joinPath directory kind.fileName
    if done.disk.pathExists path && !force then
      { done with events := done.events ++ [.kept path] }
    else
      match done.disk.write path (.text kind.packaged) with
      | (disk, none) =>
        { done with
          written := done.written ++ [path], events := done.events ++ [.published path], disk }
      | (disk, some fault) => { done with disk, fault := some fault }

/-- Copy the packaged stubs into a directory, which is made if it is missing. -/
def publish (directory : String) (force : Bool) (disk : Disk) : Published :=
  match disk.createDirectories directory with
  | (disk, some fault) => { disk, fault := some fault }
  | (disk, none) => StubKind.all.foldl (Published.add directory force) { disk }

end SchemaScaffold.Stub
