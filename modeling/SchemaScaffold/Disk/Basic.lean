import SchemaScaffold.Keyed
import SchemaScaffold.Text.Separated
import SchemaScaffold.Text.Utf8

/-!
# Disks

A disk is a value: files and directories by their place, the place where relative paths start, the
accesses that the system refuses, and how far it lets a file be written. Every operation says which
disk it leaves behind and whether it failed, so a program that works on a disk can be studied like
any other function. Links and owners are left out.
-/

namespace SchemaScaffold

/-- What a file holds: a text, or bytes that are none. -/
inductive Content
  | text (value : String)
  | binary (bytes : List UInt8)
  deriving DecidableEq, Repr

namespace Content

/-- The content that some bytes are. -/
def ofBytes (bytes : List UInt8) : Content :=
  match Text.Utf8.text? bytes with
  | some value => text value
  | none => binary bytes

/-- The bytes of a content. -/
def bytes : Content → List UInt8
  | text value => Text.Utf8.encode value
  | binary bytes => bytes

/-- The content as a text to look at. -/
def shown : Content → String
  | text value => value
  | binary bytes => Text.Utf8.shown bytes

end Content

namespace Disk

/-- A place: the names that lead there from the root. -/
abbrev Location := List String

/-- What is at a place. -/
inductive Node
  | file (content : Content)
  | directory
  deriving DecidableEq, Repr

/-- Ways to use a place that the system may refuse. -/
inductive Access
  | read
  | list
  | write
  | create
  | remove
  deriving DecidableEq, Repr

/-- Why an operation failed. -/
inductive Fault
  | missing
  | exists
  | notADirectory
  | isADirectory
  | nameTooLong
  | refused
  | brokenOff
  | nulInPath
  | notText
  deriving DecidableEq, Repr

/-- The words of the system for a fault. -/
def Fault.message : Fault → String
  | missing => "No such file or directory (os error 2)"
  | .exists => "File exists (os error 17)"
  | notADirectory => "Not a directory (os error 20)"
  | isADirectory => "Is a directory (os error 21)"
  | nameTooLong => "File name too long (os error 36)"
  | refused => "Permission denied (os error 13)"
  | brokenOff => "No space left on device (os error 28)"
  | nulInPath => "file name contained an unexpected NUL byte"
  | notText => "stream did not contain valid UTF-8"

end Disk

/-- Files and directories by their place. The root is always there. -/
structure Disk where
  entries : List (Disk.Location × Disk.Node) := []
  workingDirectory : Disk.Location := []
  refuses : Disk.Access → Disk.Location → Bool := fun _ _ => false
  /-- After how many of some bytes writing them into the file at a place breaks off, if it does. -/
  breaksOff : Disk.Location → List UInt8 → Option Nat := fun _ _ => none

namespace Disk

/-- What is at a place. -/
def node? (disk : Disk) (location : Location) : Option Node :=
  if location = [] then some .directory else disk.entries.lookup location

/-- Put something at a place. -/
def putNode (disk : Disk) (location : Location) (node : Node) : Disk :=
  { disk with entries := Keyed.put location node disk.entries }

/-- Clear a place. -/
def dropNode (disk : Disk) (location : Location) : Disk :=
  { disk with entries := disk.entries.filter (·.1 ≠ location) }

/-! ## Paths -/

/-- The parts of a path between its slashes. -/
def pathParts (path : String) : List String :=
  (Text.pieces (· = '/') path.toList).map String.ofList

/-- Whether a path starts at the root. -/
def isAbsolute (path : String) : Bool := path.toList.head? == some '/'

/-- A path below another one. An absolute path stands for itself. -/
def joinPath (base path : String) : String :=
  if isAbsolute path then path
  else if base = "" ∨ base.toList.getLast? = some '/' then base ++ path
  else base ++ "/" ++ path

/-- The path of the directory that a path to a file leads through. -/
def directoryOf (path : String) : String :=
  let chars := path.toList
  let name := (chars.reverse.takeWhile (· ≠ '/')).length
  let lead := chars.take (chars.length - name)
  String.ofList (if lead = ['/'] then lead else lead.dropLast)

/-- The greatest number of bytes in a name. -/
def greatestNameSize : Nat := 255

/-- Go from a directory to the place that a part of a path leads to. -/
def step (disk : Disk) (here : Location) (part : String) : Except Fault Location :=
  match disk.node? here with
  | none => .error .missing
  | some (.file _) => .error .notADirectory
  | some .directory =>
    if part = "" ∨ part = "." then .ok here
    else if part = ".." then .ok here.dropLast
    else if greatestNameSize < part.utf8ByteSize then .error .nameTooLong
    else .ok (here ++ [part])

/-- Where a path starts. -/
def startOf (disk : Disk) (path : String) : Location :=
  if isAbsolute path then [] else disk.workingDirectory

/-- The place that a path leads to. All but the place itself must be there. -/
def resolve (disk : Disk) (path : String) : Except Fault Location :=
  if path = "" then .error .missing
  else if path.toList.contains '\x00' then .error .nulInPath
  else (pathParts path).foldlM disk.step (disk.startOf path)

/-- What a path leads to. -/
def find? (disk : Disk) (path : String) : Option Node :=
  match disk.resolve path with
  | .ok location => disk.node? location
  | .error _ => none

/-- Whether a path leads to anything. -/
def pathExists (disk : Disk) (path : String) : Bool := (disk.find? path).isSome

/-- Whether a path leads to a file. -/
def isFile (disk : Disk) (path : String) : Bool :=
  match disk.find? path with
  | some (.file _) => true
  | _ => false

/-! ## Operations -/

/-- What is in the file at a path. -/
def read (disk : Disk) (path : String) : Except Fault Content := do
  let location ← disk.resolve path
  match disk.node? location with
  | none => throw .missing
  | some .directory => throw .isADirectory
  | some (.file content) =>
    if disk.refuses .read location then throw .refused
    return content

/-- The text in the file at a path. -/
def readText (disk : Disk) (path : String) : Except Fault String := do
  match ← disk.read path with
  | .text value => return value
  | .binary _ => throw .notText

/-- The names in a directory, in order. -/
def list (disk : Disk) (path : String) : Except Fault (List String) := do
  let location ← disk.resolve path
  match disk.node? location with
  | none => throw .missing
  | some (.file _) => throw .notADirectory
  | some .directory =>
    if disk.refuses .list location then throw .refused
    let names := disk.entries.filterMap fun (place, _) =>
      if place.dropLast = location then place.getLast? else none
    return names.mergeSort (fun a b => decide (a ≤ b))

/-- Open a file to write, which may be there already. The directory around it must be there. -/
def openedAt (disk : Disk) (path : String) : Except Fault Location := do
  let location ← disk.resolve path
  match disk.node? location.dropLast with
  | none => throw .missing
  | some (.file _) => throw .notADirectory
  | some .directory =>
    match disk.node? location with
    | some .directory => throw .isADirectory
    | some (.file _) =>
      if disk.refuses .write location then throw .refused
      return location
    | none =>
      if disk.refuses .create location then throw .refused
      return location

/-- Write into a file that was opened, whatever it held before. Where the writing breaks off, the
file holds the bytes up to there. -/
def fill (disk : Disk) (location : Location) (content : Content) : Disk × Option Fault :=
  match (disk.breaksOff location content.bytes).filter (· < content.bytes.length) with
  | some count =>
    (disk.putNode location (.file (.ofBytes (content.bytes.take count))), some .brokenOff)
  | none => (disk.putNode location (.file content), none)

/-- Write a file: open it, then write into it. -/
def write (disk : Disk) (path : String) (content : Content) : Disk × Option Fault :=
  match disk.openedAt path with
  | .error fault => (disk, some fault)
  | .ok location => disk.fill location content

/-- Remove a file. -/
def remove (disk : Disk) (path : String) : Except Fault Disk := do
  let location ← disk.resolve path
  match disk.node? location with
  | none => throw .missing
  | some .directory => throw .isADirectory
  | some (.file _) =>
    if disk.refuses .remove location then throw .refused
    return disk.dropNode location

/-- Make the directories along the parts of a path, as far as they are missing. When one cannot
be made, the ones before it stay. -/
def createAlong (disk : Disk) (here : Location) : List String → Disk × Option Fault
  | [] => (disk, none)
  | part :: rest =>
    match disk.step here part with
    | .error fault => (disk, some fault)
    | .ok next =>
      match disk.node? next with
      | some .directory => createAlong disk next rest
      | some (.file _) => (disk, some .exists)
      | none =>
        if disk.refuses .create next then (disk, some .refused)
        else createAlong (disk.putNode next .directory) next rest

/-- Make a directory with all that lead to it. -/
def createDirectories (disk : Disk) (path : String) : Disk × Option Fault :=
  if path = "" then (disk, none)
  else if path.toList.contains '\x00' then (disk, some .nulInPath)
  else createAlong disk (disk.startOf path) (pathParts path)

/-- Write a file and make the directories that lead to it. -/
def writeThrough (disk : Disk) (path : String) (content : Content) : Disk × Option Fault :=
  match disk.createDirectories (directoryOf path) with
  | (disk, some fault) => (disk, some fault)
  | (disk, none) => disk.write path content

end Disk

end SchemaScaffold
