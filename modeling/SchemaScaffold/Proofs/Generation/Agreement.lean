import SchemaScaffold.Proofs.Generation.Writing
import SchemaScaffold.Proofs.Stub.Loading

/-!
# Runs that bring what is rendered onto a disk

Into empty directories, a run writes the files that rendering without a disk yields, each under its
name, and nothing else. That needs names that tell the tables apart: no two models share a class
name, and no file of one migration is taken for a file of another. The files of migrations come in
the order of the tables as long as their numbers have six digits.
-/

namespace SchemaScaffold.Generation

open Artifacts (ofTable ofSchema)
open Convention (migrationName)
open Disk (Location)
open Schema (Table)

variable {layout : Layout} {source : Stub.Source} {schema : Schema} {start disk after last : Disk}

/-- Files were added where nothing was, and nothing else has changed. -/
structure Adds (files : List (Location × String)) (disk after : Disk) : Prop where
  setting : after.setting = disk.setting
  free : ∀ entry ∈ files, disk.node? entry.1 = none
  added : ∀ entry ∈ files, after.node? entry.1 = some (.file (.text entry.2))
  others : ∀ place, (∀ entry ∈ files, place ≠ entry.1) → after.node? place = disk.node? place

namespace Adds

variable {files more : List (Location × String)}

/-- Nothing was added. -/
theorem refl (disk : Disk) : Adds [] disk disk where
  setting := rfl
  free _ hentry := nomatch hentry
  added _ hentry := nomatch hentry
  others _ _ := rfl

/-- What was there is still there. -/
theorem node? (hadds : Adds files disk after) {place : Location} {node : Disk.Node}
    (hnode : disk.node? place = some node) : after.node? place = some node := by
  rw [hadds.others place fun entry hentry hsame => ?_, hnode]
  rw [hsame, hadds.free entry hentry] at hnode
  cases hnode

/-- More was added. -/
theorem trans (hfirst : Adds files disk after) (hsecond : Adds more after last) :
    Adds (files ++ more) disk last where
  setting := hsecond.setting.trans hfirst.setting
  free entry hentry := by
    rcases List.mem_append.mp hentry with hentry | hentry
    · exact hfirst.free entry hentry
    · rcases hnode : disk.node? entry.1 with _ | node
      · rfl
      · rw [← hsecond.free entry hentry, hfirst.node? hnode]
  added entry hentry := by
    rcases List.mem_append.mp hentry with hentry | hentry
    · exact hsecond.node? (hfirst.added entry hentry)
    · exact hsecond.added entry hentry
  others place hplace := by
    obtain ⟨hfiles, hmore⟩ := List.forall_mem_append.mp hplace
    rw [hsecond.others place hmore, hfirst.others place hfiles]

/-- The order in which files were added does not matter. -/
theorem congr (hadds : Adds files disk after) (hsame : ∀ entry, entry ∈ more ↔ entry ∈ files) :
    Adds more disk after where
  setting := hadds.setting
  free entry hentry := hadds.free entry ((hsame entry).mp hentry)
  added entry hentry := hadds.added entry ((hsame entry).mp hentry)
  others place hplace :=
    hadds.others place fun entry hentry => hplace entry ((hsame entry).mpr hentry)

/-- The setting and all directories are kept. -/
theorem keeps (hadds : Adds files disk after) : disk.Keeps after where
  setting := hadds.setting
  directories _ hplace := hadds.node? hplace

/-- A path leads to a directory exactly if it did before. -/
theorem leads_iff (hadds : Adds files disk after) {path : String} :
    after.Leads path ↔ disk.Leads path := by
  have hback : after.Keeps disk := by
    refine ⟨hadds.setting.symm, fun place hplace => ?_⟩
    rw [← hadds.others place fun entry hentry hsame => ?_, hplace]
    rw [hsame, hadds.added entry hentry] at hplace
    cases hplace
  exact ⟨hback.leads, hadds.keeps.leads⟩

/-- Writing a new file into a directory that is there adds it. -/
theorem of_wrote {directory name contents : String}
    (hwrote : disk.Wrote directory name (.text contents) after) (hleads : disk.Leads directory)
    (hfree : disk.node? (disk.placeOf directory ++ [name]) = none) :
    Adds [(disk.placeOf directory ++ [name], contents)] disk after where
  setting := hwrote.setting
  free := List.forall_mem_singleton.mpr hfree
  added := List.forall_mem_singleton.mpr (Disk.fileAt?_eq_some_iff.mp hwrote.written)
  others place hplace := by
    have hother := List.forall_mem_singleton.mp hplace
    exact Disk.node?_eq_of_views (hwrote.fileAt? place hother)
      ⟨hwrote.quiet hleads place, hwrote.directories place⟩

end Adds

/-- The file of a model in a directory, under its class name. -/
def modelFile (directory : Location) (model : Model.Rendered) : Location × String :=
  (directory ++ [model.className ++ ".php"], model.contents)

/-- The file of a migration in a directory, under its number. -/
def migrationFile (layout : Layout) (directory : Location) (sequence : Nat)
    (migration : Migration.Rendered) : Location × String :=
  (directory ++ [layout.migrationFileName sequence migration.name], migration.contents)

/-- All files of what is rendered, at the ends of the paths of a layout. Migrations are numbered in
their order. -/
def filesOf (layout : Layout) (disk : Disk) (artifacts : List Artifacts) :
    List (Location × String) :=
  (modelsOf artifacts).map (modelFile (disk.placeOf layout.modelsPath)) ++
    (migrationsOf artifacts).mapIdx
      (migrationFile layout (disk.placeOf layout.migrationsPath))

/-- The files of what is rendered for one more table. -/
theorem mem_filesOf_concat {done : List Artifacts} {artifacts : Artifacts}
    {entry : Location × String} :
    entry ∈ filesOf layout disk (done ++ [artifacts]) ↔
      entry ∈ filesOf layout disk done ++
        (artifacts.model.toList.map (modelFile (disk.placeOf layout.modelsPath)) ++
          artifacts.migration.toList.map (migrationFile layout
            (disk.placeOf layout.migrationsPath) (migrationsOf done).length)) := by
  have hnumbered : (migrationsOf (done ++ [artifacts])).mapIdx
      (migrationFile layout (disk.placeOf layout.migrationsPath)) =
        (migrationsOf done).mapIdx (migrationFile layout (disk.placeOf layout.migrationsPath)) ++
          artifacts.migration.toList.map (migrationFile layout
            (disk.placeOf layout.migrationsPath) (migrationsOf done).length) := by
    rw [migrationsOf_concat]
    cases artifacts.migration <;> simp
  simp only [filesOf, modelsOf_concat, hnumbered, List.map_append, List.mem_append]
  simp only [or_assoc, or_left_comm]

/-- The directories of a layout are there, are not the same, and are empty. -/
structure Vacant (layout : Layout) (disk : Disk) : Prop where
  models : disk.Leads layout.modelsPath
  migrations : disk.Leads layout.migrationsPath
  distinct : disk.placeOf layout.modelsPath ≠ disk.placeOf layout.migrationsPath
  noModel : ∀ file, disk.node? (disk.placeOf layout.modelsPath ++ [file]) = none
  noMigration : ∀ file, disk.node? (disk.placeOf layout.migrationsPath ++ [file]) = none

/-- What was done for a model added its file. -/
theorem ModelDone.adds {model : Option Model.Rendered} (hdone : ModelDone layout disk model after)
    (hleads : disk.Leads layout.modelsPath)
    (hfree : ∀ rendered ∈ model,
      disk.node? (modelFile (disk.placeOf layout.modelsPath) rendered).1 = none) :
    Adds (model.toList.map (modelFile (disk.placeOf layout.modelsPath))) disk after := by
  cases hdone with
  | idle => exact .refl disk
  | wrote hwrote => exact .of_wrote hwrote hleads (hfree _ rfl)

/-- What was done for a migration added its file, if there were no files for it. -/
theorem MigrationDone.adds {sequence : Nat} {migration : Option Migration.Rendered}
    (hdone : MigrationDone layout sequence disk migration after)
    (hleads : disk.Leads layout.migrationsPath)
    (hnone : ∀ rendered ∈ migration, existingNames disk layout.migrationsPath rendered.name = [])
    (hfree : ∀ rendered ∈ migration, disk.node?
      (migrationFile layout (disk.placeOf layout.migrationsPath) sequence rendered).1 = none) :
    Adds (migration.toList.map (migrationFile layout (disk.placeOf layout.migrationsPath) sequence))
      disk after := by
  cases hdone with
  | idle => exact .refl disk
  | replaced hreplaced =>
      obtain ⟨removals, cleared, -, hremoved, hwrote⟩ := hreplaced
      obtain rfl := hremoved.idle (hnone _ rfl)
      exact .of_wrote hwrote hleads (hfree _ rfl)

/-- The file of a model is not among others if its class is none of theirs. -/
theorem ne_modelFile {done : List Artifacts} {model : Model.Rendered}
    (hdistinct : disk.placeOf layout.modelsPath ≠ disk.placeOf layout.migrationsPath)
    (hclass : model.className ∉ (modelsOf done).map (·.className)) {entry : Location × String}
    (hentry : entry ∈ filesOf layout disk done) :
    (modelFile (disk.placeOf layout.modelsPath) model).1 ≠ entry.1 := by
  intro hsame
  rcases List.mem_append.mp hentry with hentry | hentry
  · obtain ⟨other, hother, rfl⟩ := List.mem_map.mp hentry
    have hfile := (List.append_singleton_inj.mp hsame).2
    refine hclass (List.mem_map.mpr ⟨other, hother, ?_⟩)
    exact (String.append_left_inj ".php").mp hfile.symm
  · obtain ⟨k, hk, rfl⟩ := List.mem_mapIdx.mp hentry
    exact hdistinct (List.append_singleton_inj.mp hsame).1

/-- No file for a migration is among the files of tables that are not related. -/
theorem ne_migrationFile {loader : Stub.Loader} {done : List Table} {table : Table}
    (hdistinct : disk.placeOf layout.modelsPath ≠ disk.placeOf layout.migrationsPath)
    (hunrelated : ∀ other ∈ done, Unrelated other table) {file : String}
    (hending : Text.hasEnding (migrationEnding (migrationName table.name)) file = true)
    {entry : Location × String}
    (hentry : entry ∈ filesOf layout disk (done.map (ofTable loader schema))) :
    disk.placeOf layout.migrationsPath ++ [file] ≠ entry.1 := by
  intro hsame
  rcases List.mem_append.mp hentry with hentry | hentry
  · obtain ⟨model, -, rfl⟩ := List.mem_map.mp hentry
    exact hdistinct (List.append_singleton_inj.mp hsame).1.symm
  · obtain ⟨k, hk, rfl⟩ := List.mem_mapIdx.mp hentry
    obtain rfl := (List.append_singleton_inj.mp hsame).2
    obtain ⟨artifacts, hartifacts, hmigration⟩ := List.mem_filterMap.mp (List.getElem_mem hk)
    obtain ⟨other, hother, rfl⟩ := List.mem_map.mp hartifacts
    rw [name_of_ofTable hmigration] at hending
    have hown := Layout.hasEnding_migrationFileName layout k (migrationName other.name)
    have hnot := (hunrelated other hother).not_hasEnding hown
    exact Bool.false_ne_true (hnot.symm.trans hending)

/-- A model is not skipped where nothing stands in the place of its file. -/
theorem ModelMade.ne_skipped_of_free {table : Table} {step : Step}
    (hmodel : ModelMade layout source schema table disk step)
    (hfree : ∀ model ∈ (ofTable (source disk) schema table).model,
      disk.node? (modelFile (disk.placeOf layout.modelsPath) model).1 = none) :
    step.outcome ≠ .skipped := by
  cases hmodel with
  | notRendered | written | notWritten => exact nofun
  | kept hrender hexists =>
      have hname := className_of_render hrender ▸ Layout.isName_modelFile table.name
      have hsome := ((Disk.pathExists_joinPath_iff hname).mp hexists).2.2.2
      have hnone := hfree _ (ofTable_model hrender)
      rw [modelFile] at hnone
      rw [hnone] at hsome
      cases hsome

/-- A migration is not skipped where no files are found for it. -/
theorem MigrationMade.ne_skipped_of_free {table : Table} {sequence next : Nat} {step : Step}
    (hmigration : MigrationMade layout source schema table sequence disk (step, next))
    (hnone : existingNames disk layout.migrationsPath (migrationName table.name) = []) :
    step.outcome ≠ .skipped := by
  cases hmigration with
  | kept hexists => exact absurd hnone hexists
  | notRendered | written | notWritten => exact nofun

/-- Whether a place is that of a generated file. -/
def IsPhp (place : Location) : Prop := ∃ directory stem, place = directory ++ [stem ++ ".php"]

/-- Stubs that stay the same while generated files are added. -/
def Stable (source : Stub.Source) (disk : Disk) : Prop :=
  ∀ {files after}, (∀ entry ∈ files, IsPhp entry.1) → Adds files disk after →
    source after = source disk

/-- All files of what is rendered are generated files. -/
theorem isPhp_of_mem_filesOf {artifacts : List Artifacts} {entry : Location × String}
    (hentry : entry ∈ filesOf layout disk artifacts) : IsPhp entry.1 := by
  rcases List.mem_append.mp hentry with hentry | hentry
  · obtain ⟨model, -, rfl⟩ := List.mem_map.mp hentry
    exact ⟨_, _, rfl⟩
  · obtain ⟨k, hk, rfl⟩ := List.mem_mapIdx.mp hentry
    exact ⟨_, _, rfl⟩

/-- Where the files of some tables were added, the model of one more is added to them. -/
theorem ModelMade.adds {done : List Table} {table : Table} {step : Step}
    (hsource : Stable source start) (hvacant : Vacant layout start)
    (hclasses : ((modelsOf ((done ++ [table]).map (ofTable (source start) schema))).map
      (·.className)).Nodup)
    (hadds : Adds (filesOf layout start (done.map (ofTable (source start) schema))) start disk)
    (hmodel : ModelMade layout source schema table disk step) (hfine : Fine step.events) :
    step.outcome = writtenIf (ofTable (source start) schema table).model.isSome ∧
      Adds (filesOf layout start (done.map (ofTable (source start) schema)) ++
        (ofTable (source start) schema table).model.toList.map
          (modelFile (start.placeOf layout.modelsPath))) start step.disk := by
  have hsame : source disk = source start :=
    hsource (fun entry hentry => isPhp_of_mem_filesOf hentry) hadds
  have hplace := hadds.keeps.placeOf layout.modelsPath
  have hfree (model : Model.Rendered)
      (hrendered : (ofTable (source disk) schema table).model = some model) :
      disk.node? (modelFile (disk.placeOf layout.modelsPath) model).1 = none := by
    rw [hplace, hadds.others _ fun entry hentry => ne_modelFile hvacant.distinct ?_ hentry]
    · exact hvacant.noModel _
    · rw [List.map_append, List.map_singleton, modelsOf_concat, ← hsame, hrendered,
        List.map_append] at hclasses
      rw [← hsame]
      exact fun hclass =>
        (List.nodup_append.mp hclasses).2.2 _ hclass _ List.mem_cons_self rfl
  obtain ⟨houtcome, hdone⟩ := hmodel.done hfine (hmodel.ne_skipped_of_free hfree)
  have hadded := hdone.adds (hadds.keeps.leads hvacant.models) hfree
  rw [hplace, hsame] at hadded
  exact ⟨hsame ▸ houtcome, hadds.trans hadded⟩

/-- Where the files of some tables and the model of one more were added, the migration of that one
is added to them. -/
theorem MigrationMade.adds {done : List Table} {table : Table} {sequence next : Nat} {step : Step}
    (hsource : Stable source start) (hvacant : Vacant layout start)
    (hunrelated : ∀ other ∈ done, Unrelated other table)
    (hadds : Adds (filesOf layout start (done.map (ofTable (source start) schema)) ++
      (ofTable (source start) schema table).model.toList.map
        (modelFile (start.placeOf layout.modelsPath))) start disk)
    (hmigration : MigrationMade layout source schema table sequence disk (step, next))
    (hfine : Fine step.events) :
    step.outcome = writtenIf (ofTable (source start) schema table).migration.isSome ∧
      next = sequence + (ofTable (source start) schema table).migration.isSome.toNat ∧
      Adds ((filesOf layout start (done.map (ofTable (source start) schema)) ++
        (ofTable (source start) schema table).model.toList.map
          (modelFile (start.placeOf layout.modelsPath))) ++
        (ofTable (source start) schema table).migration.toList.map
          (migrationFile layout (start.placeOf layout.migrationsPath) sequence)) start
        step.disk := by
  have hsame : source disk = source start := by
    refine hsource (fun entry hentry => ?_) hadds
    rcases List.mem_append.mp hentry with hentry | hentry
    · exact isPhp_of_mem_filesOf hentry
    · obtain ⟨model, -, rfl⟩ := List.mem_map.mp hentry
      exact ⟨_, _, rfl⟩
  have hplace := hadds.keeps.placeOf layout.migrationsPath
  have hfree {file : String}
      (hending : Text.hasEnding (migrationEnding (migrationName table.name)) file = true) :
      disk.node? (disk.placeOf layout.migrationsPath ++ [file]) = none := by
    rw [hplace, hadds.others _ fun entry hentry => ?_]
    · exact hvacant.noMigration file
    · rcases List.mem_append.mp hentry with hentry | hentry
      · exact ne_migrationFile hvacant.distinct hunrelated hending hentry
      · obtain ⟨model, -, rfl⟩ := List.mem_map.mp hentry
        exact fun hsame => hvacant.distinct (List.append_singleton_inj.mp hsame).1.symm
  have hnone : existingNames disk layout.migrationsPath (migrationName table.name) = [] := by
    refine List.eq_nil_iff_forall_not_mem.mpr fun file hfile => ?_
    obtain ⟨-, hending, hsome⟩ := mem_existingNames_iff.mp hfile
    rw [hfree hending] at hsome
    cases hsome
  obtain ⟨houtcome, hnext, hdone⟩ := hmigration.done hfine (hmigration.ne_skipped_of_free hnone)
  have hadded := hdone.adds (hadds.keeps.leads hvacant.migrations)
    (fun migration hrendered => by rwa [name_of_ofTable hrendered])
    (fun migration hrendered => hfree (by
      rw [← name_of_ofTable hrendered]
      exact Layout.hasEnding_migrationFileName layout sequence migration.name))
  rw [hplace, hsame] at hadded
  exact ⟨hsame ▸ houtcome, hsame ▸ hnext, hadds.trans hadded⟩

/-- What has been done once some tables are dealt with. -/
structure Agreeing (layout : Layout) (loader : Stub.Loader) (schema : Schema) (start : Disk)
    (done : List Table) (report : Report) (sequence : Nat) (disk : Disk) : Prop
    extends Counted loader schema done report sequence where
  adds : Adds (filesOf layout start (done.map (ofTable loader schema))) start disk

/-- One more table is dealt with like the others. -/
theorem stepKeeps_agreeing (hsource : Stable source start) (hvacant : Vacant layout start)
    (hclasses : ((modelsOf (ofSchema (source start) schema)).map (·.className)).Nodup)
    (hunrelated : schema.tables.Pairwise Unrelated) :
    StepKeeps layout source schema (Agreeing layout (source start) schema start) := by
  intro done table report sequence disk model migration next hdone _ hbefore hmodel hmodels
    hmigration hmigrations
  have hclassesSoFar : ((modelsOf ((done ++ [table]).map (ofTable (source start) schema))).map
      (·.className)).Nodup :=
    hclasses.sublist (((hdone.map _).filterMap _).map _).sublist
  have hunrelatedSoFar : ∀ other ∈ done, Unrelated other table := by
    intro other hother
    exact (List.pairwise_append.mp (hunrelated.sublist hdone.sublist)).2.2 other hother table
      List.mem_cons_self
  obtain ⟨hmodelOutcome, hadds⟩ :=
    hmodel.adds hsource hvacant hclassesSoFar hbefore.adds hmodels
  obtain ⟨hmigrationOutcome, hnext, hadds⟩ :=
    hmigration.adds hsource hvacant hunrelatedSoFar hadds hmigrations
  have hcounted := hbefore.toCounted.concat hmodelOutcome hmigrationOutcome hnext
  refine { hcounted with adds := ?_ }
  rw [List.map_append, List.map_singleton]
  apply hadds.congr
  intro entry
  rw [mem_filesOf_concat, hbefore.sequence, List.append_assoc]

/-- After a run without a fault into empty directories, what is rendered without a disk is there. -/
theorem agreeing_run (hwell : start.WellFormed) (hstamp : Layout.isDateStamp layout.stamp = true)
    (hsource : Stable source start) (hvacant : Vacant layout start)
    (hclasses : ((modelsOf (ofSchema (source start) schema)).map (·.className)).Nodup)
    (hunrelated : schema.tables.Pairwise Unrelated)
    (hfine : Fine (run layout source schema start).events) :
    let last := run layout source schema start
    Agreeing layout (source start) schema start schema.tables last.report last.sequence last.disk :=
  run_induction hstamp (stepKeeps_agreeing hsource hvacant hclasses hunrelated) hwell
    ⟨⟨rfl, rfl⟩, .refl start⟩ hfine

/-- The stubs in a directory stay the same while generated files are added. -/
theorem stable_directorySource (start : Disk) (directory : String) (orPackaged : Bool) :
    Stable (Stub.directorySource directory orPackaged) start := by
  intro files after hphp hadds
  funext kind
  have hother : ∀ entry ∈ files, Stub.stubPlace start directory kind ≠ entry.1 := by
    intro entry hentry hsame
    obtain ⟨parent, stem, hfile⟩ := hphp entry hentry
    have hstub := (List.append_singleton_inj.mp (hsame.trans hfile)).2
    have hending := Text.hasEnding_iff.mpr ⟨stem, hstub⟩
    revert hending
    cases kind <;> decide
  exact Stub.directorySource_congr hadds.setting hadds.leads_iff (hadds.others _ hother)

/-- What is rendered with the stubs in a directory is there after such a run, although the run reads
the stubs anew for every file. -/
theorem agreeing_run_directorySource (hwell : start.WellFormed)
    (hstamp : Layout.isDateStamp layout.stamp = true) (directory : String) (orPackaged : Bool)
    (hvacant : Vacant layout start)
    (hclasses : ((modelsOf (ofSchema (Stub.directorySource directory orPackaged start) schema)).map
      (·.className)).Nodup)
    (hunrelated : schema.tables.Pairwise Unrelated)
    (hfine : Fine (run layout (Stub.directorySource directory orPackaged) schema start).events) :
    Agreeing layout (Stub.directorySource directory orPackaged start) schema start schema.tables
      (run layout (Stub.directorySource directory orPackaged) schema start).report
      (run layout (Stub.directorySource directory orPackaged) schema start).sequence
      (run layout (Stub.directorySource directory orPackaged) schema start).disk :=
  agreeing_run hwell hstamp (stable_directorySource start directory orPackaged) hvacant hclasses
    hunrelated hfine

/-- The names of the files of migrations. -/
def migrationFileNames (layout : Layout) (artifacts : List Artifacts) : List String :=
  (migrationsOf artifacts).mapIdx fun k migration => layout.migrationFileName k migration.name

/-- Up to a million, the files of migrations come in the order of the tables. -/
theorem pairwise_migrationFileNames (layout : Layout) {artifacts : List Artifacts}
    (hfew : artifacts.length ≤ 10 ^ 6) :
    (migrationFileNames layout artifacts).Pairwise fun name later =>
      Text.Utf8.encode name < Text.Utf8.encode later := by
  rw [List.pairwise_iff_getElem]
  intro i j hi hj hlt
  have hlength : (migrationsOf artifacts).length ≤ artifacts.length := List.length_filterMap_le ..
  have hlater : j < 10 ^ 6 := by
    rw [migrationFileNames, List.length_mapIdx] at hj
    omega
  simp only [migrationFileNames, List.getElem_mapIdx]
  exact Layout.migrationFileName_lt layout hlt hlater _ _

/-- A run without a fault into empty directories, with force or without, brings the files of what is
rendered without a disk there and nothing else, if no two models share a class name and no two
tables are related by the names of their migrations. The counts say how many files these are, and
up to a million tables the files of migrations come in the order of the tables. -/
theorem run_agrees_with_rendering (disk : Disk) (loader : Stub.Loader) (schema : Schema)
    (layout : Layout) (hwell : disk.WellFormed) (hstamp : Layout.isDateStamp layout.stamp = true)
    (hvacant : Vacant layout disk)
    (hclasses : ((modelsOf (ofSchema loader schema)).map (·.className)).Nodup)
    (hunrelated : schema.tables.Pairwise Unrelated)
    (hfine : Fine (run layout (fun _ => loader) schema disk).events) :
    let artifacts := ofSchema loader schema
    let last := run layout (fun _ => loader) schema disk
    (∀ entry ∈ filesOf layout disk artifacts,
        last.disk.node? entry.1 = some (.file (.text entry.2))) ∧
      (∀ place, (∀ entry ∈ filesOf layout disk artifacts, place ≠ entry.1) →
        last.disk.node? place = disk.node? place) ∧
      last.report = fullReport artifacts ∧
      (schema.tables.length ≤ 10 ^ 6 →
        (migrationFileNames layout artifacts).Pairwise fun name later =>
          Text.Utf8.encode name < Text.Utf8.encode later) := by
  intro artifacts last
  have hstable : Stable (fun _ => loader) disk := fun _ _ => rfl
  have hagreeing := agreeing_run hwell hstamp hstable hvacant hclasses hunrelated hfine
  refine ⟨hagreeing.adds.added, hagreeing.adds.others, hagreeing.report, fun hfew => ?_⟩
  apply pairwise_migrationFileNames
  show (schema.tables.map (ofTable loader schema)).length ≤ 10 ^ 6
  rwa [List.length_map]

/-- A project whose directories are there and empty. -/
def emptyDisk : Disk where
  entries := [(["m"], .directory), (["n"], .directory)]

/-- Where the directories of that project are. -/
def emptyLayout : Layout where
  base := "/"
  modelsDirectory := "m"
  migrationsDirectory := "n"
  stamp := "2024_01_01"

/-- A schema of users and their posts. -/
def blogSchema : Schema where
  tables := [{ name := "users", schema := "public", columns := [], indexes := [] },
    { name := "posts", schema := "public", columns := [], indexes := [] }]

/-- The directories of that project are vacant. -/
theorem vacant_emptyLayout : Vacant emptyLayout emptyDisk where
  models := by decide +kernel
  migrations := by decide +kernel
  distinct := by decide +kernel
  noModel file := by
    have hplace : emptyDisk.placeOf emptyLayout.modelsPath = ["m"] := by decide +kernel
    rw [hplace]
    rfl
  noMigration file := by
    have hplace : emptyDisk.placeOf emptyLayout.migrationsPath = ["n"] := by decide +kernel
    rw [hplace]
    rfl

/-- The files of the users and of their posts are brought there, the users first. -/
theorem run_brings_blog :
    let artifacts := ofSchema (fun kind => .ok (some kind.label)) blogSchema
    let last := run emptyLayout (fun _ kind => .ok (some kind.label)) blogSchema emptyDisk
    (∀ entry ∈ filesOf emptyLayout emptyDisk artifacts,
        last.disk.node? entry.1 = some (.file (.text entry.2))) ∧
      last.report = fullReport artifacts ∧
      (migrationFileNames emptyLayout artifacts).Pairwise fun name later =>
        Text.Utf8.encode name < Text.Utf8.encode later := by
  obtain ⟨hfiles, -, hreport, horder⟩ := run_agrees_with_rendering emptyDisk
    (fun kind => .ok (some kind.label)) blogSchema emptyLayout
    (Disk.wellFormed_of_entries (by decide)) (by decide) vacant_emptyLayout (by decide +kernel)
    (by decide +kernel) (by decide +kernel)
  exact ⟨hfiles, hreport, horder (by decide)⟩

end SchemaScaffold.Generation
