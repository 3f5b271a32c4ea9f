import SchemaScaffold.Proofs.Generation.Step

/-!
# Whose migration a file is

All migrations are kept in one directory, and whose migration a file is can only be told from the
end of its name. Generating the files of a table looks at the names of all files there, writes one
of them and may remove others. While no name of a migration ends in that of another one, tables
keep out of each other's way, whether or not all operations on the disk succeed. Where one does end
in the other, the longer one is taken for the shorter one.
-/

namespace SchemaScaffold.Generation

open Convention (migrationName)
open Disk (Location)
open Schema (Table)
open Text (hasEnding)

variable {layout : Layout} {source : Stub.Source} {schema : Schema} {table other : Table}
variable {disk after last : Disk} {name : String}

/-- Whether a path of a layout goes through a place. -/
def Crosses (layout : Layout) (disk : Disk) (place : Location) : Prop :=
  disk.Passes layout.modelsPath place ∨ disk.Passes layout.migrationsPath place

/-- The files for a migration are what they were, and directories came up only where the paths of a
layout go through. -/
structure Spares (layout : Layout) (name : String) (disk after : Disk) : Prop
    extends disk.Keeps after where
  wellFormed : after.WellFormed
  fileAt? : ∀ file, hasEnding (migrationEnding name) file = true →
    after.fileAt? (disk.placeOf layout.migrationsPath ++ [file]) =
      disk.fileAt? (disk.placeOf layout.migrationsPath ++ [file])
  made : ∀ place, after.node? place = some .directory →
    disk.node? place = some .directory ∨ Crosses layout disk place

namespace Spares

/-- Nothing was done. -/
theorem refl (hwell : disk.WellFormed) : Spares layout name disk disk where
  toKeeps := .refl disk
  wellFormed := hwell
  fileAt? _ _ := rfl
  made _ hplace := .inl hplace

/-- One thing was done after another. -/
theorem trans (hfirst : Spares layout name disk after) (hsecond : Spares layout name after last) :
    Spares layout name disk last where
  toKeeps := hfirst.toKeeps.trans hsecond.toKeeps
  wellFormed := hsecond.wellFormed
  fileAt? file hending := by
    have hfile := hsecond.fileAt? file hending
    rw [hfirst.placeOf] at hfile
    rw [hfile, hfirst.fileAt? file hending]
  made place hplace := by
    rcases hsecond.made place hplace with hthere | hcrosses
    · exact hfirst.made place hthere
    · exact .inr (hcrosses.imp (.congr hfirst.setting) (.congr hfirst.setting))

/-- Files were removed that are not for the migration. -/
theorem of_shrinks {touched : Location → Prop} (hshrinks : disk.Shrinks touched after)
    (helsewhere : ∀ file, hasEnding (migrationEnding name) file = true →
      ¬touched (disk.placeOf layout.migrationsPath ++ [file])) :
    Spares layout name disk after where
  toKeeps := hshrinks.toKeeps
  wellFormed := hshrinks.wellFormed
  fileAt? file hending := hshrinks.fileAt? _ (helsewhere file hending)
  made _ hplace := .inl (hshrinks.node?_of_node? hplace)

variable {directory file : String} {content : Content} {fault : Disk.Fault}

/-- A file was written that is not for the migration. -/
theorem of_wrote (hcrosses : ∀ place, disk.Passes directory place → Crosses layout disk place)
    (hother : hasEnding (migrationEnding name) file = false)
    (hwrote : disk.Wrote directory file content after) : Spares layout name disk after where
  toKeeps := hwrote.toKeeps
  wellFormed := hwrote.wellFormed
  fileAt? found hending := by
    apply hwrote.fileAt?
    intro hsame
    rw [(List.append_singleton_inj.mp hsame).2, hother] at hending
    cases hending
  made place hplace := (hwrote.made place hplace).imp_right (hcrosses place)

/-- A file could not be opened, and directories on the way to it may have come up. -/
theorem of_unopened (hcrosses : ∀ place, disk.Passes directory place → Crosses layout disk place)
    (htouches : disk.Touches (fun _ => False) after) (hmade : disk.MadeAlong directory after) :
    Spares layout name disk after where
  toKeeps := htouches.toKeeps
  wellFormed := htouches.wellFormed
  fileAt? _ _ := htouches.fileAt? _ id
  made place hplace := (hmade place hplace).imp_right (hcrosses place)

/-- A file could not be written that is not for the migration. -/
theorem of_abandoned
    (hcrosses : ∀ place, disk.Passes directory place → Crosses layout disk place)
    (hother : hasEnding (migrationEnding name) file = false)
    (habandoned : disk.Abandoned directory file content fault after) :
    Spares layout name disk after := by
  cases habandoned with
  | unopened _ htouches hmade => exact .of_unopened hcrosses htouches hmade
  | stump _ hwrote => exact .of_wrote hcrosses hother hwrote

/-- What stands at the place of a file for the migration stood there before, or is on the way. -/
theorem isSome (hspares : Spares layout name disk after) {file : String}
    (hending : hasEnding (migrationEnding name) file = true)
    (hsome : (after.node? (disk.placeOf layout.migrationsPath ++ [file])).isSome) :
    (disk.node? (disk.placeOf layout.migrationsPath ++ [file])).isSome ∨
      Crosses layout disk (disk.placeOf layout.migrationsPath ++ [file]) := by
  obtain ⟨node, hnode⟩ := Option.isSome_iff_exists.mp hsome
  cases node with
  | directory =>
      refine (hspares.made _ hnode).imp_left fun hthere => ?_
      rw [hthere]
      rfl
  | file content =>
      have hfile := Disk.fileAt?_eq_some_iff.mpr hnode
      rw [hspares.fileAt? file hending] at hfile
      left
      rw [Disk.fileAt?_eq_some_iff.mp hfile]
      rfl

end Spares

/-- A model is not taken for a migration. -/
theorem ModelMade.spares {step : Step} (hwell : disk.WellFormed)
    (hmodel : ModelMade layout source schema table disk step) (name : String) :
    Spares layout name disk step.disk := by
  cases hmodel with
  | notRendered | kept => exact .refl hwell
  | written hrender _ hwrote =>
      rw [className_of_render hrender] at hwrote
      exact .of_wrote (fun _ => .inl) (not_hasEnding_modelFile _ _) hwrote
  | notWritten hrender habandoned =>
      rw [className_of_render hrender] at habandoned
      exact .of_abandoned (fun _ => .inl) (not_hasEnding_modelFile _ _) habandoned

/-- The files that are removed for a migration are not those of an unrelated one. -/
theorem Removed.spares {removals : List Event} (hunrelated : Unrelated table other)
    (hremoved : Removed disk layout.migrationsPath (migrationName table.name) removals after) :
    Spares layout (migrationName other.name) disk after := by
  apply Spares.of_shrinks hremoved.toShrinks
  rintro file hending ⟨found, hfound, hsame⟩
  obtain rfl := (List.append_singleton_inj.mp hsame).2
  rw [hunrelated.not_hasEnding (mem_existingNames_iff.mp hfound).2.1] at hending
  cases hending

/-- A migration is not taken for an unrelated one, and takes the place of none of its files. -/
theorem MigrationMade.spares {sequence next : Nat} {step : Step} (hwell : disk.WellFormed)
    (hunrelated : Unrelated table other)
    (hmigration : MigrationMade layout source schema table sequence disk (step, next)) :
    Spares layout (migrationName other.name) disk step.disk := by
  have hother := hunrelated.not_hasEnding
    (Layout.hasEnding_migrationFileName layout sequence (migrationName table.name))
  cases hmigration with
  | kept | notRendered => exact .refl hwell
  | written hrender _ hremoved hwrote =>
      rw [name_of_render hrender] at hremoved hwrote
      exact (hremoved.spares hunrelated).trans (.of_wrote (fun _ => .inr) hother hwrote)
  | notWritten hrender _ hremoved habandoned =>
      rw [name_of_render hrender] at hremoved habandoned
      exact (hremoved.spares hunrelated).trans (.of_abandoned (fun _ => .inr) hother habandoned)

/-- A migration that is skipped has files that are found for it. -/
theorem MigrationMade.existingNames_ne_nil {sequence next : Nat} {step : Step}
    (hmigration : MigrationMade layout source schema table sequence disk (step, next))
    (hskipped : step.outcome = .skipped) :
    existingNames disk layout.migrationsPath (migrationName table.name) ≠ [] := by
  cases hmigration with
  | kept hexists => exact hexists
  | notRendered | written | notWritten => cases hskipped

/-- Tables leave an unrelated migration alone, one after another. -/
theorem spares_through (hstamp : Layout.isDateStamp layout.stamp = true) (progress : Progress)
    (hwell : progress.disk.WellFormed) {tables : List Table}
    (hunrelated : ∀ table ∈ tables, Unrelated table other) :
    Spares layout (migrationName other.name) progress.disk
      (progress.through layout source schema tables).disk := by
  induction tables generalizing progress with
  | nil => exact .refl hwell
  | cons table rest ih =>
      obtain ⟨htable, hrest⟩ := List.forall_mem_cons.mp hunrelated
      obtain ⟨hmodel, hmigration⟩ := made_advance hwell hstamp progress.sequence
      have hfirst : Spares layout (migrationName other.name) progress.disk
          (progress.advance layout source schema table).disk :=
        (hmodel.spares hwell _).trans (hmigration.spares (hmodel.wellFormed hwell) htable)
      exact hfirst.trans (ih _ hfirst.wellFormed hrest)

/-- However the files of some tables are generated, from whatever disk and with whatever faults, a
migration that is not related to theirs keeps its files as they were. And if it is its turn and it
is skipped, then something that is taken for it was there before them, or its place is on the way to
the directories. -/
theorem through_leaves_unrelated_migration (layout : Layout) (source : Stub.Source)
    (schema : Schema) (tables : List Table) (other : Table) (progress : Progress)
    (hwell : progress.disk.WellFormed) (hstamp : Layout.isDateStamp layout.stamp = true)
    (hunrelated : ∀ table ∈ tables, Unrelated table other) :
    let ending := migrationEnding (migrationName other.name)
    let place file := progress.disk.placeOf layout.migrationsPath ++ [file]
    let last := progress.through layout source schema tables
    let model := modelStep layout source schema other last.disk
    let migration := (migrationStep layout source schema other last.sequence model.disk).1
    (∀ file, hasEnding ending file = true →
        last.disk.fileAt? (place file) = progress.disk.fileAt? (place file)) ∧
      (migration.outcome = .skipped → ∃ file, hasEnding ending file = true ∧
        ((progress.disk.node? (place file)).isSome ∨
          Crosses layout progress.disk (place file))) := by
  intro ending place last model migration
  have hspares : Spares layout (migrationName other.name) progress.disk last.disk :=
    spares_through hstamp progress hwell hunrelated
  constructor
  · exact hspares.fileAt?
  · intro hskipped
    have hmodel : ModelMade layout source schema other last.disk model :=
      modelMade_modelStep hspares.wellFormed
    have hmodelSpares := hspares.trans (hmodel.spares hspares.wellFormed _)
    have hmigration : MigrationMade layout source schema other last.sequence model.disk
        (migration, _) :=
      migrationMade_migrationStep hmodelSpares.wellFormed hstamp last.sequence
    obtain ⟨file, hfile⟩ :=
      List.exists_mem_of_ne_nil _ (hmigration.existingNames_ne_nil hskipped)
    obtain ⟨-, hending, hsome⟩ := mem_existingNames_iff.mp hfile
    rw [hmodelSpares.placeOf] at hsome
    exact ⟨file, hending, hmodelSpares.isSome hending hsome⟩

/-- A project in which the migration of posts was written in an earlier year and edited by hand. -/
def postsDisk : Disk where
  entries := [(["n"], .directory),
    (["n", "2020_01_01_000000_create_posts_table.php"], .file (.text "edited"))]

/-- Where the files of that project are, with force. -/
def postsLayout : Layout where
  base := "/"
  modelsDirectory := "m"
  migrationsDirectory := "n"
  force := true
  stamp := "2024_01_01"

/-- A table without columns. -/
def bareTable (name : String) : Table := { name, schema := "public", columns := [], indexes := [] }

/-- The users are written beside the migration of posts, which stays as it was edited. -/
theorem through_leaves_posts_migration :
    (Progress.through postsLayout (fun _ kind => .ok (some kind.label)) {} { disk := postsDisk }
        [bareTable "users"]).disk.fileAt? ["n", "2020_01_01_000000_create_posts_table.php"] =
      some (.text "edited") :=
  (through_leaves_unrelated_migration postsLayout (fun _ kind => .ok (some kind.label)) {}
    [bareTable "users"] (bareTable "posts") { disk := postsDisk }
    (Disk.wellFormed_of_entries (by decide)) (by decide) (by decide +kernel)).1
    "2020_01_01_000000_create_posts_table.php" (by decide +kernel)

/-- Without force, a migration for which files are found is skipped. -/
theorem outcome_migrationStep_of_existing (hforce : layout.force = false) {sequence : Nat}
    (hexists : existingNames disk layout.migrationsPath (migrationName table.name) ≠ []) :
    (migrationStep layout source schema table sequence disk).1.outcome = .skipped := by
  unfold migrationStep
  simp only [existingMigrations_eq, List.isEmpty_map, List.isEmpty_eq_false_iff.mpr hexists, hforce]
  rfl

/-- After a migration was written whose name ends in that of another one, that other one is skipped
without force, although there may be no file for it. -/
theorem MigrationMade.skips_of_ending {sequence next : Nat} {step : Step}
    (hstamp : Layout.isDateStamp layout.stamp = true) (hforce : layout.force = false)
    (hends : hasEnding ("_" ++ migrationName other.name) (migrationName table.name) = true)
    (hmigration : MigrationMade layout source schema table sequence disk (step, next))
    (hwritten : step.outcome = .written)
    (hlist : ∃ names, step.disk.list layout.migrationsPath = .ok names) :
    (migrationStep layout source schema other next step.disk).1.outcome = .skipped := by
  cases hmigration with
  | kept | notRendered | notWritten => cases hwritten
  | written hrender _ _ hwrote =>
      apply outcome_migrationStep_of_existing hforce
      rw [name_of_render hrender] at hwrote
      have hending := (Layout.hasEnding_migrationFileName_iff hstamp sequence table.name
        other.name).mpr (.inr hends)
      exact List.ne_nil_of_mem (mem_existingNames_iff.mpr ⟨hlist, hending, hwrote.isSome⟩)

-- Two such names.
example : hasEnding ("_" ++ migrationName "users") (migrationName "re_create_users") = true := by
  decide +kernel

end SchemaScaffold.Generation
