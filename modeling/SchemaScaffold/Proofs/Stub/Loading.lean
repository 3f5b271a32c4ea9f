import SchemaScaffold.Proofs.Disk.Operation
import SchemaScaffold.Stub

/-!
# Which stub is loaded from a directory

The stub of a kind is in the file of that kind, if the path of the directory leads there and there
is a file. What is loaded depends on nothing else on the disk.
-/

namespace SchemaScaffold.Stub

open Disk (IsName Location joinPath)

variable {disk after : Disk} {directory : String} {kind : StubKind}

/-- The file of a stub has a name. -/
theorem isName_fileName (kind : StubKind) : IsName kind.fileName := by
  cases kind <;> decide

/-- The name of a stub's file is short enough. -/
theorem fileName_fits (kind : StubKind) :
    kind.fileName.utf8ByteSize ≤ Disk.greatestNameSize := by
  cases kind <;> decide

/-- Stubs of different kinds have different files. -/
theorem fileName_injective : Function.Injective StubKind.fileName := by
  intro first second hsame
  cases first <;> cases second <;> first | rfl | exact absurd hsame (by decide)

/-- The path of a stub. -/
def stubPath (directory : String) (kind : StubKind) : String := joinPath directory kind.fileName

/-- The place of a stub, once the path of its directory leads there. -/
def stubPlace (disk : Disk) (directory : String) (kind : StubKind) : Location :=
  disk.placeOf directory ++ [kind.fileName]

/-- Stubs of different kinds have different paths. -/
theorem stubPath_injective (directory : String) : Function.Injective (stubPath directory) := by
  intro first second hsame
  apply fileName_injective
  simp only [stubPath, joinPath, Disk.isAbsolute_name (isName_fileName _), Bool.false_eq_true,
    if_false] at hsame
  split at hsame <;> exact (String.append_right_inj _).mp hsame

/-- Stubs of different kinds have different places. -/
theorem stubPlace_injective (disk : Disk) (directory : String) :
    Function.Injective (stubPlace disk directory) := by
  intro first second hsame
  exact fileName_injective (List.append_singleton_inj.mp hsame).2

/-- Stubs have the same places under the same setting. -/
theorem stubPlace_congr (hsetting : after.setting = disk.setting) (directory : String) :
    stubPlace after directory = stubPlace disk directory := by
  funext kind
  rw [stubPlace, stubPlace, Disk.placeOf_congr hsetting]

/-- The path of a stub can be gone where the path of its directory leads there. -/
theorem resolve_stubPath_eq_ok_iff {place : Location} :
    disk.resolve (stubPath directory kind) = .ok place ↔
      '\x00' ∉ directory.toList ∧ disk.Leads directory ∧ place = stubPlace disk directory kind := by
  rw [stubPath, Disk.resolve_joinPath_eq_ok_iff (isName_fileName kind)]
  exact and_congr_right fun _ => and_iff_right (fileName_fits kind)

/-- Whether something is at the path of a stub. -/
theorem pathExists_stubPath_iff :
    disk.pathExists (stubPath directory kind) = true ↔
      '\x00' ∉ directory.toList ∧ disk.Leads directory ∧
        (disk.node? (stubPlace disk directory kind)).isSome := by
  rw [stubPath, Disk.pathExists_joinPath_iff (isName_fileName kind)]
  exact and_congr_right fun _ => and_iff_right (fileName_fits kind)

variable {orPackaged : Bool}

/-- The same stub is loaded where its file is the same and the path of the directory leads there as
it did. -/
theorem directorySource_congr (hsetting : after.setting = disk.setting)
    (hleads : after.Leads directory ↔ disk.Leads directory)
    (hnode : after.node? (stubPlace disk directory kind) =
      disk.node? (stubPlace disk directory kind)) :
    directorySource directory orPackaged after kind =
      directorySource directory orPackaged disk kind := by
  have hrefuses : after.refuses = disk.refuses := congrArg Prod.snd hsetting
  have hresolve (place : Location) : after.resolve (stubPath directory kind) = .ok place ↔
      disk.resolve (stubPath directory kind) = .ok place := by
    rw [resolve_stubPath_eq_ok_iff, resolve_stubPath_eq_ok_iff, hleads, stubPlace_congr hsetting]
  simp only [stubPath] at hresolve
  simp only [directorySource, Disk.isFile, Disk.find?, Disk.readText, Disk.read]
  cases hdisk : disk.resolve (joinPath directory kind.fileName) with
  | error fault =>
      cases hafter : after.resolve (joinPath directory kind.fileName) with
      | error fault => rfl
      | ok place =>
          rw [(hresolve place).mp hafter] at hdisk
          cases hdisk
  | ok place =>
      obtain ⟨-, -, rfl⟩ := resolve_stubPath_eq_ok_iff.mp hdisk
      rw [(hresolve _).mpr hdisk]
      simp only [bind, Except.bind, hnode, hrefuses]

/-- Where no file is found for a stub, the packaged one stands in for it. -/
theorem directorySource_of_no_file
    (hnone : disk.Leads directory → disk.fileAt? (stubPlace disk directory kind) = none) :
    directorySource directory orPackaged disk kind =
      if orPackaged then packagedLoader kind else .ok none := by
  have hfile : disk.isFile (joinPath directory kind.fileName) = false := by
    unfold Disk.isFile
    split
    case h_2 => rfl
    case h_1 content hfind =>
      obtain ⟨place, hresolve, hnode⟩ := Disk.find?_eq_some_iff.mp hfind
      obtain ⟨-, hleads, rfl⟩ := resolve_stubPath_eq_ok_iff.mp hresolve
      rw [← Disk.fileAt?_eq_some_iff, hnone hleads] at hnode
      cases hnode
  rw [directorySource, hfile]
  rfl

/-- A text in the file of a stub is loaded if it may be read. -/
theorem directorySource_of_text {text : String} (hnul : '\x00' ∉ directory.toList)
    (hleads : disk.Leads directory)
    (hnode : disk.node? (stubPlace disk directory kind) = some (.file (.text text))) :
    directorySource directory orPackaged disk kind =
      if disk.refuses .read (stubPlace disk directory kind) then
        .error (.unreadable (stubPath directory kind) .refused)
      else .ok (some text) := by
  have hresolve : disk.resolve (joinPath directory kind.fileName) = .ok _ :=
    resolve_stubPath_eq_ok_iff.mpr ⟨hnul, hleads, rfl⟩
  simp only [directorySource, Disk.isFile, Disk.find?, Disk.readText, Disk.read, hresolve, hnode,
    bind, Except.bind]
  cases disk.refuses .read (stubPlace disk directory kind) <;> rfl

end SchemaScaffold.Stub
