import SchemaScaffold.Artifacts
import SchemaScaffold.Layout
import SchemaScaffold.Text.Ending

/-!
# Generating the files of a project

A run goes through the tables of a schema in order and writes a model and a migration for each.
Files that are there already are left alone unless the layout asks otherwise, and a failure with
one file is reported and keeps no other file from being written. The files of migrations are
numbered in the order in which a run writes them, and a migration is recognised by the end of its
file name whatever its date and number.
-/

namespace SchemaScaffold.Generation

open Schema (Table)

/-- How it went with one file. -/
inductive Outcome
  | written
  | skipped
  | failed
  deriving DecidableEq, Repr

/-- Something worth telling about a run. -/
inductive Event
  | modelNotRendered (table : String) (error : RenderError)
  | modelKept (className : String)
  | modelWritten (className : String)
  | migrationKept (table : String)
  | migrationNotRendered (table : String) (error : RenderError)
  | notRemoved (path : String) (fault : Disk.Fault)
  | migrationWritten (table : String)
  | notWritten (path : String) (fault : Disk.Fault)
  | finished (models migrations : Nat)
  deriving DecidableEq, Repr

/-- The log line for an event. -/
def Event.line (event : Event) : Log.Line :=
  let line (level : Log.Level) (message : String) : Log.Line :=
    { level, area := ["generator"], message }
  match event with
  | modelNotRendered table error =>
    line .error ("Model for table \"" ++ table ++ "\" not generated: " ++ error.message)
  | modelKept className =>
    line .warn ("Model " ++ className ++ " already exists. Use --force to overwrite.")
  | modelWritten className => line .info ("Model " ++ className ++ " created.")
  | migrationKept table =>
    line .warn ("Migration for table " ++ table ++ " already exists. Skipping...")
  | migrationNotRendered table error =>
    line .error ("Migration for table \"" ++ table ++ "\" not generated: " ++ error.message)
  | notRemoved path fault =>
    line .warn ("Could not remove " ++ path ++ ": " ++ fault.message)
  | migrationWritten table => line .info ("Migration for " ++ table ++ " created.")
  | notWritten path fault =>
    line .error ("Failed to write " ++ path ++ ": " ++ fault.message)
  | finished models migrations =>
    line .info ("Generated " ++ toString models ++ " models and " ++ toString migrations ++
      " migrations successfully.")

/-- One file dealt with: how it went, what is to be told, and the disk it leaves behind. -/
structure Step where
  outcome : Outcome
  events : List Event
  disk : Disk

/-- Write a file and tell how it went. -/
def writeFile (disk : Disk) (path contents : String) (done : Event) : Step :=
  match disk.writeThrough path (.text contents) with
  | (disk, none) => { outcome := .written, events := [done], disk }
  | (disk, some fault) => { outcome := .failed, events := [.notWritten path fault], disk }

/-- Generate the model of a table. -/
def modelStep (layout : Layout) (source : Stub.Source) (schema : Schema) (table : Table)
    (disk : Disk) : Step :=
  match Model.render (source disk) schema table with
  | .error error =>
    { outcome := .failed, events := [.modelNotRendered table.name error], disk }
  | .ok model =>
    let path := layout.modelFile model.className
    if disk.pathExists path && !layout.force then
      { outcome := .skipped, events := [.modelKept model.className], disk }
    else writeFile disk path model.contents (.modelWritten model.className)

/-- What the name of every file for a migration ends in. -/
def migrationEnding (migrationName : String) : String := "_" ++ migrationName ++ ".php"

/-- The files of a directory that are for a migration, in the order of their names. A directory
that cannot be listed has none. -/
def existingMigrations (disk : Disk) (directory migrationName : String) : List String :=
  match disk.list directory with
  | .error _ => []
  | .ok names =>
    (names.filter (Text.hasEnding (migrationEnding migrationName))).map
      (Disk.joinPath directory)

/-- Remove files one by one; those that cannot be removed stay and are told. -/
def removeAll (disk : Disk) : List String → Disk × List Event
  | [] => (disk, [])
  | path :: rest =>
    match disk.remove path with
    | .ok disk => removeAll disk rest
    | .error fault =>
      let (disk, events) := removeAll disk rest
      (disk, .notRemoved path fault :: events)

/-- Generate the migration of a table under a number. The second part is the number for the next
migration. -/
def migrationStep (layout : Layout) (source : Stub.Source) (schema : Schema) (table : Table)
    (sequence : Nat) (disk : Disk) : Step × Nat :=
  let existing :=
    existingMigrations disk layout.migrationsPath (Convention.migrationName table.name)
  if !existing.isEmpty && !layout.force then
    ({ outcome := .skipped, events := [.migrationKept table.name], disk }, sequence)
  else
    match Migration.render (source disk) schema table with
    | .error error =>
      ({ outcome := .failed, events := [.migrationNotRendered table.name error], disk }, sequence)
    | .ok migration =>
      let (cleared, removals) := removeAll disk existing
      let path := layout.migrationFile sequence migration.name
      let step := writeFile cleared path migration.contents (.migrationWritten table.name)
      ({ step with events := removals ++ step.events },
        if step.outcome = .written then sequence + 1 else sequence)

/-- How many files were written, left alone, and not brought about. -/
structure Report where
  models : Nat := 0
  migrations : Nat := 0
  skipped : Nat := 0
  failed : Nat := 0
  deriving DecidableEq, Repr

namespace Report

/-- Count a file that was not written. -/
def tally (report : Report) : Outcome → Report
  | .written => report
  | .skipped => { report with skipped := report.skipped + 1 }
  | .failed => { report with failed := report.failed + 1 }

/-- Count a model. -/
def addModel (report : Report) (outcome : Outcome) : Report :=
  if outcome = .written then { report with models := report.models + 1 } else report.tally outcome

/-- Count a migration. -/
def addMigration (report : Report) (outcome : Outcome) : Report :=
  if outcome = .written then { report with migrations := report.migrations + 1 }
  else report.tally outcome

end Report

/-- A run so far: the counts, the number for the next migration, what was told, and the disk. -/
structure Progress where
  report : Report := {}
  sequence : Nat := 0
  events : List Event := []
  disk : Disk

/-- Generate the files of one more table: the model, then the migration. -/
def Progress.advance (layout : Layout) (source : Stub.Source) (schema : Schema)
    (progress : Progress) (table : Table) : Progress :=
  let model := modelStep layout source schema table progress.disk
  let (migration, sequence) :=
    migrationStep layout source schema table progress.sequence model.disk
  { report := (progress.report.addModel model.outcome).addMigration migration.outcome
    sequence
    events := progress.events ++ model.events ++ migration.events
    disk := migration.disk }

/-- Generate the files of tables one after another. -/
def Progress.through (layout : Layout) (source : Stub.Source) (schema : Schema)
    (progress : Progress) (tables : List Table) : Progress :=
  tables.foldl (Progress.advance layout source schema) progress

/-- Generate all files of a schema. -/
def run (layout : Layout) (source : Stub.Source) (schema : Schema) (disk : Disk) : Progress :=
  let progress := Progress.through layout source schema { disk } schema.tables
  { progress with
    events := progress.events ++ [.finished progress.report.models progress.report.migrations] }

end SchemaScaffold.Generation
