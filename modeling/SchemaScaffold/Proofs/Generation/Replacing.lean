import SchemaScaffold.Proofs.Generation.Writing

/-!
# Runs that replace what is there

With force, a run writes every model and puts every migration in the place of all files that are
taken for it. What becomes of the file at a place then does not depend on what was there: it stays,
it goes, or it gets a content, and the last table with an effect on the place decides. So a second
run changes nothing that the first one did not change, and older files for a migration leave no
trace.
-/

namespace SchemaScaffold.Generation

open Artifacts (ofTable)
open Disk (Location Node)
open Schema (Table)

variable {layout : Layout} {loader : Stub.Loader} {schema : Schema} {disk after last : Disk}

/-- What becomes of the file at each place: it stays, it goes, or it gets a content. -/
abbrev Effect := Location → Option (Option Content)

namespace Effect

/-- All files stay. -/
def stay : Effect := fun _ => none

/-- The file at one place gets a content. -/
def write (target : Location) (content : Content) : Effect :=
  fun place => if place = target then some (some content) else none

/-- The files at some places go. -/
def clear (gone : Location → Bool) : Effect := fun place => if gone place then some none else none

/-- One effect after another: the later one decides. -/
def followedBy (first second : Effect) : Effect := fun place => (second place).or (first place)

end Effect

/-- What was done to a disk has an effect on its files, makes some paths lead to directories, and
makes no directory if all of them did before. -/
structure Effects (effect : Effect) (paths : List String) (disk after : Disk) : Prop
    extends disk.Keeps after where
  fileAt? : ∀ place, after.fileAt? place = (effect place).getD (disk.fileAt? place)
  led : ∀ path ∈ paths, after.Leads path
  quiet : (∀ path ∈ paths, disk.Leads path) →
    ∀ place, after.node? place = some .directory → disk.node? place = some .directory

namespace Effects

variable {effect first second : Effect} {paths others : List String}

/-- Nothing was done. -/
theorem refl (disk : Disk) : Effects .stay [] disk disk where
  toKeeps := .refl disk
  fileAt? _ := rfl
  led _ hpath := nomatch hpath
  quiet _ _ hplace := hplace

/-- One thing was done after another. -/
theorem trans (hfirst : Effects first paths disk after)
    (hsecond : Effects second others after last) :
    Effects (first.followedBy second) (paths ++ others) disk last where
  toKeeps := hfirst.toKeeps.trans hsecond.toKeeps
  fileAt? place := by
    rw [hsecond.fileAt?, hfirst.fileAt?, Effect.followedBy]
    cases second place <;> rfl
  led path hpath := by
    rcases List.mem_append.mp hpath with hpath | hpath
    · exact hsecond.leads (hfirst.led path hpath)
    · exact hsecond.led path hpath
  quiet hleads place hplace := by
    obtain ⟨hpaths, hothers⟩ := List.forall_mem_append.mp hleads
    exact hfirst.quiet hpaths place
      (hsecond.quiet (fun path hpath => hfirst.leads (hothers path hpath)) place hplace)

end Effects

/-- If there are files at the end of a path, then they can be listed. -/
structure Searchable (disk : Disk) (path : String) : Prop where
  ne_empty : path ≠ ""
  allowed : disk.refuses .list (disk.placeOf path) = false
  found : disk.Leads path ∨ ∀ file, disk.fileAt? (disk.placeOf path ++ [file]) = none

/-- A path can still be searched after something happened elsewhere. -/
theorem Searchable.touches {path : String} (hsearchable : Searchable disk path)
    {touched : Location → Prop} (htouches : disk.Touches touched after)
    (helsewhere : ∀ file, ¬touched (disk.placeOf path ++ [file])) : Searchable after path where
  ne_empty := hsearchable.ne_empty
  allowed := (Disk.refuses_congr htouches.setting .list path).trans hsearchable.allowed
  found := hsearchable.found.imp htouches.leads fun hnone file => by
    rw [htouches.placeOf, htouches.fileAt? _ (helsewhere file), hnone file]

end SchemaScaffold.Generation
