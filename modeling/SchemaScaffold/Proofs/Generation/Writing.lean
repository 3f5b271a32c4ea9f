import SchemaScaffold.Proofs.Generation.Step

/-!
# Runs that write all that can be rendered

Where nothing is skipped and nothing goes wrong on the disk, what a step does is decided by what
would be rendered without a disk. The counts follow, and so does the number of the next migration,
which is the count of the migrations before it.
-/

namespace SchemaScaffold.Generation

open Artifacts (ofTable)
open Schema (Table)

variable {layout : Layout} {source : Stub.Source} {loader : Stub.Loader} {schema : Schema}
variable {table : Table} {disk : Disk} {step : Step}

/-- The outcome for a file that is written if it can be rendered. -/
def writtenIf (rendered : Bool) : Outcome := if rendered then .written else .failed

/-- The model among what is rendered for a table. -/
theorem ofTable_model {rendered : Except RenderError Model.Rendered}
    (hrender : Model.render loader schema table = rendered) :
    (ofTable loader schema table).model = rendered.toOption := by
  rw [ofTable, hrender]

/-- The migration among what is rendered for a table. -/
theorem ofTable_migration {rendered : Except RenderError Migration.Rendered}
    (hrender : Migration.render loader schema table = rendered) :
    (ofTable loader schema table).migration = rendered.toOption := by
  rw [ofTable, hrender]

/-- A migration among what is rendered for a table has the name of the migration of the table. -/
theorem name_of_ofTable {migration : Migration.Rendered}
    (hmigration : (ofTable loader schema table).migration = some migration) :
    migration.name = Convention.migrationName table.name := by
  cases hrender : Migration.render loader schema table with
  | error error => cases (ofTable_migration hrender).symm.trans hmigration
  | ok rendered =>
      cases (ofTable_migration hrender).symm.trans hmigration
      exact name_of_render hrender

/-- A model was written if it could be rendered, and otherwise nothing was done. -/
inductive ModelDone (layout : Layout) (disk : Disk) : Option Model.Rendered → Disk → Prop
  | idle : ModelDone layout disk none disk
  | wrote {model : Model.Rendered} {after : Disk}
      (hwrote : disk.Wrote layout.modelsPath (model.className ++ ".php") (.text model.contents)
        after) :
      ModelDone layout disk (some model) after

/-- A model that was not skipped was written if it could be rendered. -/
theorem ModelMade.done (hmodel : ModelMade layout source schema table disk step)
    (hfine : Fine step.events) (htried : step.outcome ≠ .skipped) :
    step.outcome = writtenIf (ofTable (source disk) schema table).model.isSome ∧
      ModelDone layout disk (ofTable (source disk) schema table).model step.disk := by
  cases hmodel with
  | notRendered hrender =>
      rw [ofTable_model hrender]
      exact ⟨rfl, .idle⟩
  | kept => exact absurd rfl htried
  | written hrender _ hwrote =>
      rw [ofTable_model hrender]
      exact ⟨rfl, .wrote hwrote⟩
  | notWritten => exact nomatch hfine _ List.mem_cons_self

/-- A migration was put in the place of those that were there. -/
def Replaced (layout : Layout) (sequence : Nat) (migration : Migration.Rendered)
    (disk after : Disk) : Prop :=
  ∃ removals cleared, Fine removals ∧
    Removed disk layout.migrationsPath migration.name removals cleared ∧
    cleared.Wrote layout.migrationsPath (layout.migrationFileName sequence migration.name)
      (.text migration.contents) after

/-- A migration was put in the place of those that were there if it could be rendered, and otherwise
nothing was done. -/
inductive MigrationDone (layout : Layout) (sequence : Nat) (disk : Disk) :
    Option Migration.Rendered → Disk → Prop
  | idle : MigrationDone layout sequence disk none disk
  | replaced {migration : Migration.Rendered} {after : Disk}
      (hreplaced : Replaced layout sequence migration disk after) :
      MigrationDone layout sequence disk (some migration) after

/-- A migration that was not skipped was put in the place of those that were there if it could be
rendered. -/
theorem MigrationMade.done {sequence next : Nat}
    (hmigration : MigrationMade layout source schema table sequence disk (step, next))
    (hfine : Fine step.events) (htried : step.outcome ≠ .skipped) :
    step.outcome = writtenIf (ofTable (source disk) schema table).migration.isSome ∧
      next = sequence + (ofTable (source disk) schema table).migration.isSome.toNat ∧
      MigrationDone layout sequence disk (ofTable (source disk) schema table).migration
        step.disk := by
  cases hmigration with
  | kept => exact absurd rfl htried
  | notRendered hrender =>
      rw [ofTable_migration hrender]
      exact ⟨rfl, rfl, .idle⟩
  | written hrender _ hremoved hwrote =>
      rw [ofTable_migration hrender]
      exact ⟨rfl, rfl, .replaced ⟨_, _, (fine_append.mp hfine).1, hremoved, hwrote⟩⟩
  | notWritten => exact nomatch hfine _ (List.mem_append_right _ List.mem_cons_self)

/-- The models among what is rendered. -/
def modelsOf (artifacts : List Artifacts) : List Model.Rendered := artifacts.filterMap (·.model)

/-- The migrations among what is rendered. -/
def migrationsOf (artifacts : List Artifacts) : List Migration.Rendered :=
  artifacts.filterMap (·.migration)

/-- The models of one more table. -/
theorem modelsOf_concat (done : List Artifacts) (artifacts : Artifacts) :
    modelsOf (done ++ [artifacts]) = modelsOf done ++ artifacts.model.toList := by
  cases hmodel : artifacts.model <;> simp [modelsOf, hmodel]

/-- The migrations of one more table. -/
theorem migrationsOf_concat (done : List Artifacts) (artifacts : Artifacts) :
    migrationsOf (done ++ [artifacts]) = migrationsOf done ++ artifacts.migration.toList := by
  cases hmigration : artifacts.migration <;> simp [migrationsOf, hmigration]

/-- The counts of a run that writes all that can be rendered. -/
def fullReport (artifacts : List Artifacts) : Report where
  models := (modelsOf artifacts).length
  migrations := (migrationsOf artifacts).length
  skipped := 0
  failed := (artifacts.flatMap (·.errors)).length

/-- The counts go up by what is rendered for one more table. -/
theorem fullReport_concat (done : List Artifacts) (loader : Stub.Loader) (schema : Schema)
    (table : Table) :
    fullReport (done ++ [ofTable loader schema table]) =
      ((fullReport done).addModel
        (writtenIf (ofTable loader schema table).model.isSome)).addMigration
          (writtenIf (ofTable loader schema table).migration.isSome) := by
  cases hmodel : Model.render loader schema table <;>
    cases hmigration : Migration.render loader schema table <;>
    simp [fullReport, modelsOf, migrationsOf, ofTable, hmodel, hmigration, Except.toOption,
      writtenIf, Report.addModel, Report.addMigration, Report.tally]

/-- The number for the next migration goes up by one with every migration. -/
theorem length_migrationsOf_concat (done : List Artifacts) (artifacts : Artifacts) :
    (migrationsOf (done ++ [artifacts])).length =
      (migrationsOf done).length + artifacts.migration.isSome.toNat := by
  rw [migrationsOf_concat, List.length_append]
  cases artifacts.migration <;> rfl

/-- The counts and the number for the next migration, once all was written that can be rendered for
some tables. -/
structure Counted (loader : Stub.Loader) (schema : Schema) (done : List Table) (report : Report)
    (sequence : Nat) : Prop where
  report : report = fullReport (done.map (ofTable loader schema))
  sequence : sequence = (migrationsOf (done.map (ofTable loader schema))).length

/-- One more table is counted. -/
theorem Counted.concat {done : List Table} {report : Report} {sequence next : Nat}
    {model migration : Outcome} (hcounted : Counted loader schema done report sequence)
    (hmodel : model = writtenIf (ofTable loader schema table).model.isSome)
    (hmigration : migration = writtenIf (ofTable loader schema table).migration.isSome)
    (hnext : next = sequence + (ofTable loader schema table).migration.isSome.toNat) :
    Counted loader schema (done ++ [table]) ((report.addModel model).addMigration migration)
      next where
  report := by
    rw [List.map_append, List.map_singleton, fullReport_concat, ← hcounted.report, hmodel,
      hmigration]
  sequence := by
    rw [List.map_append, List.map_singleton, length_migrationsOf_concat, ← hcounted.sequence, hnext]

end SchemaScaffold.Generation
