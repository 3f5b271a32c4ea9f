import SchemaScaffold.Proofs.Generation.Step

/-!
# Runs that leave alone what is there

Unless it is asked to, a run writes over nothing: a model is written where no file is, and a
migration where no file for it is found. Both are looked for by the path as it is spelled, which
finds what is at its end unless the path goes up again from a directory that is yet to be made; so
that is asked of the paths. After such a run everything that can be rendered is there, and as
nothing that a later step does takes it away again, a second run has nothing left to do.
-/

namespace SchemaScaffold.Generation

open Disk (Location Node)
open Layout (hasEnding_migrationFileName)
open Schema (Table)

variable {layout : Layout} {source : Stub.Source} {loader : Stub.Loader} {schema : Schema}
  {table : Table} {disk after : Disk}

/-- All that is on a disk is on another one as it was. -/
structure Extends (disk after : Disk) : Prop where
  setting : after.setting = disk.setting
  node? : ∀ {place node}, disk.node? place = some node → after.node? place = some node

/-- Where there is something on a disk there is something on another one, and where there is a
directory there is one. -/
structure Grows (disk after : Disk) : Prop extends disk.Keeps after where
  isSome : ∀ place, (disk.node? place).isSome → (after.node? place).isSome

namespace Extends

variable {start : Disk}

/-- A disk extends itself. -/
theorem refl (disk : Disk) : Extends disk disk where
  setting := rfl
  node? hnode := hnode

/-- The setting and all directories are kept. -/
theorem keeps (hextends : Extends start disk) : start.Keeps disk where
  setting := hextends.setting
  directories _ hplace := hextends.node? hplace

/-- Changes at places where nothing was keep what was. -/
theorem touches (hextends : Extends start disk) {touched : Location → Prop}
    (htouches : disk.Touches touched after)
    (hfree : ∀ place, touched place → start.node? place = none) : Extends start after where
  setting := htouches.setting.trans hextends.setting
  node? {place node} hnode := by
    refine htouches.node? (fun htouched => ?_) (hextends.node? hnode)
    rw [hfree place htouched] at hnode
    cases hnode

/-- What is in a directory that can be reached is still there and its path still leads there. -/
theorem leads_of_isSome (hextends : Extends start disk) (hwell : start.WellFormed) {path : String}
    (hreaches : start.Reaches path) {file : String}
    (hfile : (start.node? (start.placeOf path ++ [file])).isSome) :
    disk.Leads path ∧ (disk.node? (disk.placeOf path ++ [file])).isSome := by
  obtain ⟨node, hnode⟩ := Option.isSome_iff_exists.mp hfile
  refine ⟨hextends.keeps.leads (hreaches (hwell _ _ _ hnode).2.2), ?_⟩
  rw [hextends.keeps.placeOf, hextends.node? hnode]
  rfl

end Extends

namespace Grows

/-- A disk grows into itself. -/
theorem refl (disk : Disk) : Grows disk disk where
  toKeeps := .refl disk
  isSome _ hplace := hplace

/-- Growing on. -/
theorem trans {last : Disk} (hfirst : Grows disk after) (hsecond : Grows after last) :
    Grows disk last where
  toKeeps := hfirst.toKeeps.trans hsecond.toKeeps
  isSome place hplace := hsecond.isSome place (hfirst.isSome place hplace)

/-- Writing a file takes nothing away. -/
theorem of_wrote {directory name : String} {content : Content}
    (hwrote : disk.Wrote directory name content after) : Grows disk after where
  toKeeps := hwrote.toKeeps
  isSome place hplace := by
    by_cases hsame : place = disk.placeOf directory ++ [name]
    · rw [hsame, Disk.fileAt?_eq_some_iff.mp hwrote.written]
      rfl
    · obtain ⟨node, hnode⟩ := Option.isSome_iff_exists.mp hplace
      rw [hwrote.node? hsame hnode]
      rfl

end Grows

/-- The two files of a table are there, as far as they can be rendered. -/
structure Present (layout : Layout) (loader : Stub.Loader) (schema : Schema) (disk : Disk)
    (table : Table) : Prop where
  model : ∀ {model}, Model.render loader schema table = .ok model →
    disk.pathExists (layout.modelFile model.className) = true
  migration : ∀ {migration}, Migration.render loader schema table = .ok migration →
    existingNames disk layout.migrationsPath migration.name ≠ []

/-- A model's file that is there stays there. -/
theorem Grows.pathExists (hgrows : Grows disk after) {model : Model.Rendered}
    (hrender : Model.render loader schema table = .ok model)
    (hexists : disk.pathExists (layout.modelFile model.className) = true) :
    after.pathExists (layout.modelFile model.className) = true := by
  have hname : Disk.IsName (model.className ++ ".php") :=
    className_of_render hrender ▸ Layout.isName_modelFile table.name
  obtain ⟨hnul, hfits, hleads, hsome⟩ := (Disk.pathExists_joinPath_iff hname).mp hexists
  refine (Disk.pathExists_joinPath_iff hname).mpr ⟨hnul, hfits, hgrows.leads hleads, ?_⟩
  rw [hgrows.placeOf]
  exact hgrows.isSome _ hsome

/-- Files that are found for a migration stay there. -/
theorem Grows.existingNames (hgrows : Grows disk after) {directory name : String}
    (hexists : existingNames disk directory name ≠ []) :
    Generation.existingNames after directory name ≠ [] := by
  obtain ⟨file, hfile⟩ := List.exists_mem_of_ne_nil _ hexists
  obtain ⟨hlist, hending, hsome⟩ := mem_existingNames_iff.mp hfile
  apply List.ne_nil_of_mem (a := file)
  apply mem_existingNames_iff.mpr
  refine ⟨hgrows.exists_list hlist, hending, ?_⟩
  rw [hgrows.placeOf]
  exact hgrows.isSome _ hsome

/-- The files of a table that are there stay there. -/
theorem Present.grow (hpresent : Present layout loader schema disk table)
    (hgrows : Grows disk after) : Present layout loader schema after table where
  model hrender := hgrows.pathExists hrender (hpresent.model hrender)
  migration hrender := hgrows.existingNames (hpresent.migration hrender)

variable {start : Disk} {step : Step}

/-- Where no file is found by its path, there was none at the start. -/
theorem Extends.node?_eq_none (hextends : Extends start disk) (hwell : start.WellFormed)
    {path file : String} (hreaches : start.Reaches path)
    (hfree : ¬(disk.Leads path ∧ (disk.node? (disk.placeOf path ++ [file])).isSome)) :
    start.node? (disk.placeOf path ++ [file]) = none := by
  rw [hextends.keeps.placeOf]
  exact Option.not_isSome_iff_eq_none.mp fun hsome =>
    hfree (hextends.leads_of_isSome hwell hreaches hsome)

/-- A model that is generated without force and without a fault takes nothing away, and is there
afterwards. -/
theorem ModelMade.keeps (hwell : start.WellFormed) (hforce : layout.force = false)
    (hreaches : start.Reaches layout.modelsPath) (hextends : Extends start disk)
    (hmodel : ModelMade layout (fun _ => loader) schema table disk step)
    (hfine : Fine step.events) :
    Extends start step.disk ∧ Grows disk step.disk ∧
      ∀ {model}, Model.render loader schema table = .ok model →
        step.disk.pathExists (layout.modelFile model.className) = true := by
  cases hmodel with
  | notRendered hrender =>
      refine ⟨hextends, .refl disk, fun hother => ?_⟩
      rw [hrender] at hother
      cases hother
  | kept hrender hexists =>
      refine ⟨hextends, .refl disk, fun hother => ?_⟩
      rw [hrender] at hother
      cases hother
      exact hexists
  | written hrender hfree hwrote =>
      have hname := className_of_render hrender ▸ Layout.isName_modelFile table.name
      refine ⟨hextends.touches hwrote.toTouches ?_, .of_wrote hwrote, fun hother => ?_⟩
      · rintro place rfl
        refine hextends.node?_eq_none hwell hreaches fun hthere => ?_
        have hexists := (Disk.pathExists_joinPath_iff hname).mpr
          ⟨hwrote.no_nul, hwrote.fits, hthere⟩
        exact Bool.false_ne_true ((hfree hforce).symm.trans hexists)
      · rw [hrender] at hother
        cases hother
        exact hwrote.pathExists hname
  | notWritten => exact nomatch hfine _ List.mem_cons_self

/-- A migration that is generated without force and without a fault takes nothing away, and is there
afterwards. -/
theorem MigrationMade.keeps (hwell : start.WellFormed) (hforce : layout.force = false)
    (hlistable : start.Listable layout.migrationsPath) (hextends : Extends start disk)
    {sequence next : Nat}
    (hmigration : MigrationMade layout (fun _ => loader) schema table sequence disk (step, next))
    (hfine : Fine step.events) :
    Extends start step.disk ∧ Grows disk step.disk ∧
      ∀ {migration}, Migration.render loader schema table = .ok migration →
        existingNames step.disk layout.migrationsPath migration.name ≠ [] := by
  cases hmigration with
  | notRendered hrender =>
      refine ⟨hextends, .refl disk, fun hother => ?_⟩
      rw [hrender] at hother
      cases hother
  | kept hexists =>
      refine ⟨hextends, .refl disk, fun hother => ?_⟩
      rw [name_of_render hother]
      exact hexists
  | @written migration _ _ _ hrender hfree hremoved hwrote =>
      have hending := hasEnding_migrationFileName layout sequence migration.name
      obtain rfl := hremoved.idle (hfree hforce)
      refine ⟨hextends.touches hwrote.toTouches ?_, .of_wrote hwrote, fun hother => ?_⟩
      · rintro place rfl
        refine hextends.node?_eq_none hwell hlistable.reaches fun ⟨hleads, hsome⟩ => ?_
        have hlist := hlistable.exists_list hextends.setting hwrote.no_nul hleads
        have hfound := mem_existingNames_iff.mpr ⟨hlist, hending, hsome⟩
        rw [hfree hforce] at hfound
        cases hfound
      · rw [hrender] at hother
        cases hother
        have hsetting := hwrote.setting.trans hextends.setting
        have hlist := hlistable.exists_list hsetting hwrote.no_nul hwrote.led
        exact List.ne_nil_of_mem (mem_existingNames_iff.mpr ⟨hlist, hending, hwrote.isSome⟩)
  | notWritten => exact nomatch hfine _ (List.mem_append_right _ List.mem_cons_self)

/-- Without force and without a fault, a run takes nothing away, and the files of all tables are
there afterwards. -/
theorem run_keeps (hwell : start.WellFormed) (hforce : layout.force = false)
    (hstamp : Layout.isDateStamp layout.stamp = true)
    (hreaches : start.Reaches layout.modelsPath) (hlistable : start.Listable layout.migrationsPath)
    (hfine : Fine (run layout (fun _ => loader) schema start).events) :
    Extends start (run layout (fun _ => loader) schema start).disk ∧
      ∀ table ∈ schema.tables,
        Present layout loader schema (run layout (fun _ => loader) schema start).disk table := by
  have hstep : StepKeeps layout (fun _ => loader) schema fun done _ _ disk =>
      Extends start disk ∧ ∀ table ∈ done, Present layout loader schema disk table := by
    intro done table _ _ disk model migration _ _ _ hkept hmodel hmodels hmigration hmigrations
    obtain ⟨hextends, hdone⟩ := hkept
    obtain ⟨hextends, hgrows, hrendered⟩ := hmodel.keeps hwell hforce hreaches hextends hmodels
    obtain ⟨hextends, hfurther, hfound⟩ :=
      hmigration.keeps hwell hforce hlistable hextends hmigrations
    refine ⟨hextends, fun other hother => ?_⟩
    rcases List.mem_append.mp hother with hother | hother
    · exact (hdone other hother).grow (hgrows.trans hfurther)
    · obtain rfl := List.mem_singleton.mp hother
      exact ⟨fun hrender => hfurther.pathExists hrender (hrendered hrender), hfound⟩
  exact run_induction hstamp hstep hwell ⟨.refl start, fun _ h => nomatch h⟩ hfine

/-- A model that is there is not generated again. -/
theorem Present.modelStep (hpresent : Present layout loader schema disk table)
    (hforce : layout.force = false) :
    (Generation.modelStep layout (fun _ => loader) schema table disk).disk = disk ∧
      (Generation.modelStep layout (fun _ => loader) schema table disk).outcome ≠ .written := by
  unfold Generation.modelStep
  split
  case h_1 => exact ⟨rfl, nofun⟩
  case h_2 model hrender =>
    simp only [hpresent.model hrender, hforce]
    exact ⟨rfl, nofun⟩

/-- A migration that is there is not generated again. -/
theorem Present.migrationStep (hpresent : Present layout loader schema disk table)
    (hforce : layout.force = false) (sequence : Nat) :
    (Generation.migrationStep layout (fun _ => loader) schema table sequence disk).1.disk = disk ∧
      (Generation.migrationStep layout (fun _ => loader) schema table sequence disk).1.outcome ≠
        .written := by
  unfold Generation.migrationStep
  simp only [existingMigrations_eq, List.isEmpty_map]
  split
  case isTrue => exact ⟨rfl, nofun⟩
  case isFalse hnone =>
    split
    case h_1 => exact ⟨rfl, nofun⟩
    case h_2 migration hrender =>
      have hfound := hpresent.migration hrender
      rw [name_of_render hrender, ← List.isEmpty_eq_false_iff] at hfound
      rw [hfound, hforce] at hnone
      exact absurd rfl hnone

/-- No file was written, and each one that was asked for was skipped or failed. -/
structure Idle (count : Nat) (before after : Report) : Prop where
  models : after.models = before.models
  migrations : after.migrations = before.migrations
  others : after.skipped + after.failed = before.skipped + before.failed + count

/-- What was not written is counted as skipped or failed. -/
theorem idle_of_ne_written {model migration : Outcome} (hmodel : model ≠ .written)
    (hmigration : migration ≠ .written) (report : Report) :
    Idle 2 report ((report.addModel model).addMigration migration) := by
  cases model <;> cases migration <;>
    first
    | contradiction
    | exact ⟨rfl, rfl, by simp [Report.addModel, Report.addMigration, Report.tally]; omega⟩

/-- Counting on. -/
theorem Idle.trans {first second : Nat} {before between after : Report}
    (hfirst : Idle first before between) (hsecond : Idle second between after) :
    Idle (first + second) before after where
  models := hsecond.models.trans hfirst.models
  migrations := hsecond.migrations.trans hfirst.migrations
  others := by rw [hsecond.others, hfirst.others, Nat.add_assoc]

/-- Where the files of a table are there, nothing is done for it without force. -/
theorem Present.advance (progress : Progress)
    (hpresent : Present layout loader schema progress.disk table) (hforce : layout.force = false) :
    let next := progress.advance layout (fun _ => loader) schema table
    next.disk = progress.disk ∧ Idle 2 progress.report next.report := by
  obtain ⟨hmodel, hmodelOutcome⟩ := hpresent.modelStep hforce
  obtain ⟨hmigration, hmigrationOutcome⟩ := hpresent.migrationStep hforce progress.sequence
  simp only [Progress.advance, hmodel]
  exact ⟨hmigration, idle_of_ne_written hmodelOutcome hmigrationOutcome progress.report⟩

/-- Where the files of all tables are there, a run without force does nothing. -/
theorem through_of_present (hforce : layout.force = false) (progress : Progress)
    {tables : List Table}
    (hpresent : ∀ table ∈ tables, Present layout loader schema progress.disk table) :
    let last := progress.through layout (fun _ => loader) schema tables
    last.disk = progress.disk ∧ Idle (2 * tables.length) progress.report last.report := by
  induction tables generalizing progress with
  | nil => exact ⟨rfl, rfl, rfl, rfl⟩
  | cons table rest ih =>
      obtain ⟨htable, hrest⟩ := List.forall_mem_cons.mp hpresent
      obtain ⟨hdisk, hidle⟩ := htable.advance progress hforce
      obtain ⟨hlast, hothers⟩ := ih (progress.advance layout (fun _ => loader) schema table)
        (hdisk ▸ hrest)
      refine ⟨hlast.trans hdisk, ?_⟩
      rw [List.length_cons, Nat.mul_succ, Nat.add_comm]
      exact hidle.trans hothers

/-- Without force and without a fault, a run keeps all that was there, and a second run, under
whatever date, leaves the disk as it is and writes nothing. -/
theorem run_unforced_keeps_and_settles (disk : Disk) (loader : Stub.Loader) (schema : Schema)
    (layout : Layout) (stamp : String) (hwell : disk.WellFormed) (hforce : layout.force = false)
    (hstamp : Layout.isDateStamp layout.stamp = true)
    (hreaches : disk.Reaches layout.modelsPath) (hlistable : disk.Listable layout.migrationsPath)
    (hfine : Fine (run layout (fun _ => loader) schema disk).events) :
    let first := run layout (fun _ => loader) schema disk
    let second := run { layout with stamp } (fun _ => loader) schema first.disk
    (∀ place node, disk.node? place = some node → first.disk.node? place = some node) ∧
      second.disk = first.disk ∧ second.report.models = 0 ∧ second.report.migrations = 0 ∧
      second.report.skipped + second.report.failed = 2 * schema.tables.length := by
  intro first second
  obtain ⟨hextends, hpresent⟩ := run_keeps hwell hforce hstamp hreaches hlistable hfine
  -- Where the files are looked for does not depend on the date.
  have hthere (table : Table) (htable : table ∈ schema.tables) :
      Present { layout with stamp } loader schema first.disk table :=
    ⟨(hpresent table htable).model, (hpresent table htable).migration⟩
  have hunforced : { layout with stamp }.force = false := hforce
  obtain ⟨hdisk, hidle⟩ := through_of_present hunforced { disk := first.disk } hthere
  refine ⟨fun _ _ => hextends.node?, hdisk, hidle.models, hidle.migrations, ?_⟩
  exact hidle.others.trans (Nat.zero_add _)

/-- A project in which one model was written and then edited by hand. -/
def editedDisk : Disk where
  entries := [(["m"], .directory), (["m", "User.php"], .file (.text "edited"))]

/-- A table of users without columns. -/
def usersTable : Table := { name := "users", schema := "public", columns := [], indexes := [] }

/-- Where the models are in that project, and where the migrations will be. -/
def editedLayout : Layout where
  base := "/"
  modelsDirectory := "m"
  migrationsDirectory := "n"
  stamp := "2024_01_01"

/-- The edited model is kept while a migration is written beside it, and on another day there is
nothing left to do. -/
theorem run_keeps_edited_model :
    let first := run editedLayout (fun _ kind => .ok (some kind.label)) { tables := [usersTable] }
      editedDisk
    let second := run { editedLayout with stamp := "2024_12_31" }
      (fun _ kind => .ok (some kind.label)) { tables := [usersTable] } first.disk
    first.disk.node? ["m", "User.php"] = some (.file (.text "edited")) ∧
      second.disk = first.disk ∧ second.report.skipped + second.report.failed = 2 := by
  obtain ⟨hkept, hdisk, -, -, hothers⟩ := run_unforced_keeps_and_settles editedDisk
    (fun kind => .ok (some kind.label)) { tables := [usersTable] } editedLayout "2024_12_31"
    (Disk.wellFormed_of_entries (by decide)) rfl (by decide) (by decide +kernel)
    (by decide +kernel) (by decide +kernel)
  exact ⟨hkept _ _ rfl, hdisk, hothers⟩

-- A path that goes up from a directory yet to be made does not find the model, and leads to it
-- once the directory was made.
example :
    (run { editedLayout with modelsDirectory := "new/../m" } (fun _ kind => .ok (some kind.label))
      { tables := [usersTable] } editedDisk).disk.node? ["m", "User.php"] =
      some (.file (.text "Model")) := by
  decide +kernel

end SchemaScaffold.Generation
