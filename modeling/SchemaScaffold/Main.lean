import Std.Time.Zoned
import SchemaScaffold.CommandLine

/-!
# The program

The outer layer looks at the part of the real disk that a command can touch, lets the command run
on that picture of it, and then carries over what has changed. It starts no programs, so a schema
has to be JSON already, and it reports what is usual.
-/

namespace SchemaScaffold.CommandLine

open Disk (Location Node)

/-- The real path of a place. -/
def realPath (location : Location) : String := "/" ++ Text.joined "/" location

/-- The names in a real directory. -/
def namesIn (location : Location) : IO (List String) := do
  let place := (← IO.currentDir) / realPath location
  return (← place.readDir).toList.map (·.fileName)

/-- What is at a place of the real disk. -/
def look (location : Location) : IO (Option Node) := do
  try
    let _ ← namesIn location
    return some .directory
  catch _ =>
    try
      let bytes ← IO.FS.readBinFile (realPath location)
      return some (.file (.ofBytes bytes.toList))
    catch _ => return none

/-- Take a place over into the picture. -/
def takeOver (disk : Disk) (location : Location) : IO Disk := do
  match ← look location with
  | some node => return disk.putNode location node
  | none => return disk

/-- Take over everything that a path leads through, and what is in the directory that it leads
to. -/
def survey (start : Disk) (path : String) : IO Disk := do
  let mut disk := start
  let mut here := disk.startOf path
  for part in Disk.pathParts path do
    match disk.step here part with
    | .error _ => return disk
    | .ok next =>
      here := next
      if next ≠ [] then disk ← takeOver disk next
  if disk.node? here = some .directory then
    for name in ← namesIn here do
      disk ← takeOver disk (here ++ [name])
  return disk

/-- The picture of the disk with nothing on it but the way to the working directory. -/
def wayToHere : IO Disk := do
  let here := (Disk.pathParts (toString (← IO.currentDir))).filter (· ≠ "")
  let way := (List.range here.length).map fun n => (here.take (n + 1), Node.directory)
  return { entries := way, workingDirectory := here }

/-- The paths that a command can touch. -/
def touched (invocation : Invocation) : List String :=
  let layout := layoutOf "" invocation.given
  invocation.given.operands ++ (invocation.given.settings.lookup .parserScript).toList ++
    [layout.modelsPath, layout.migrationsPath, layout.stubsPath]

/-- Carry the changes of the picture over to the real disk. -/
def carryOver (before after : Disk) : IO Unit := do
  for (location, node) in after.entries do
    if before.node? location ≠ some node then
      match node with
      | .directory => IO.FS.createDirAll (realPath location)
      | .file content =>
        IO.FS.writeBinFile (realPath location) (ByteArray.mk content.bytes.toArray)
  for (location, _) in before.entries do
    if (after.node? location).isNone then IO.FS.removeFile (realPath location)

/-- A number with at least some digits. -/
def padded (width : Nat) (number : Int) : String :=
  let digits := toString number
  String.ofList (List.replicate (width - digits.length) '0') ++ digits

/-- Today's date as it stands in the names of migration files. -/
def todayStamp : IO String := do
  let date ← Std.Time.PlainDate.now
  return padded 4 date.year ++ "_" ++ padded 2 date.month.val ++ "_" ++ padded 2 date.day.val

end SchemaScaffold.CommandLine

open SchemaScaffold in
/-- The program. -/
def main (arguments : List String) : IO UInt32 := do
  let mut disk ← CommandLine.wayToHere
  if let .ok invocation := CommandLine.read arguments then
    for path in CommandLine.touched invocation do
      disk ← CommandLine.survey disk path
  let result := CommandLine.run
    { host := fun _ => none, today := ← CommandLine.todayStamp } arguments disk
  IO.eprint result.stderr
  CommandLine.carryOver disk result.disk
  return result.status.toUInt32
