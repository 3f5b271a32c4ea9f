import SchemaScaffold.Proofs.Disk.Operation
import SchemaScaffold.Proofs.Generation.FileName

/-!
# What generating one file does

A model is rendered or not, it is there already or not, and writing it succeeds or not; a migration
besides takes the place of others. Each way through is one case of a relation, and all that is said
of whole runs is said for these cases and carried along the tables by one induction.
-/

namespace SchemaScaffold.Generation

open Disk (IsName Location joinPath)
open Json (bind_eq_ok)
open Schema (Table)

variable {layout : Layout} {source : Stub.Source} {schema : Schema} {table : Table} {disk : Disk}

/-- Whether an event tells that an operation on the disk failed. -/
def Event.isFault : Event → Bool
  | .notRemoved _ _ | .notWritten _ _ => true
  | _ => false

/-- All operations that are told of succeeded. -/
def Fine (events : List Event) : Prop := ∀ event ∈ events, event.isFault = false

instance (events : List Event) : Decidable (Fine events) :=
  inferInstanceAs (Decidable (∀ event ∈ events, event.isFault = false))

/-- Events one after the other. -/
theorem fine_append {first second : List Event} :
    Fine (first ++ second) ↔ Fine first ∧ Fine second :=
  List.forall_mem_append

/-- A rendered model has the class name of its table. -/
theorem className_of_render {loader : Stub.Loader} {model : Model.Rendered}
    (hrender : Model.render loader schema table = .ok model) :
    model.className = Convention.modelName table.name := by
  obtain ⟨name, hname, hrest⟩ := bind_eq_ok hrender
  obtain ⟨stub, -, hmodel⟩ := bind_eq_ok hrest
  obtain rfl := Except.ok.inj hmodel
  exact Model.eq_modelName_of_className hname

/-- A rendered migration has the name of the migration of its table. -/
theorem name_of_render {loader : Stub.Loader} {migration : Migration.Rendered}
    (hrender : Migration.render loader schema table = .ok migration) :
    migration.name = Convention.migrationName table.name := by
  obtain ⟨stub, -, hmigration⟩ := bind_eq_ok hrender
  obtain rfl := Except.ok.inj hmigration
  rfl

/-- The ways in which generating a model can go. -/
inductive ModelMade (layout : Layout) (source : Stub.Source) (schema : Schema) (table : Table)
    (disk : Disk) : Step → Prop
  | notRendered {error : RenderError}
      (hrender : Model.render (source disk) schema table = .error error) :
      ModelMade layout source schema table disk
        { outcome := .failed, events := [.modelNotRendered table.name error], disk }
  | kept {model : Model.Rendered}
      (hrender : Model.render (source disk) schema table = .ok model)
      (hexists : disk.pathExists (layout.modelFile model.className) = true)
      (hforce : layout.force = false) :
      ModelMade layout source schema table disk
        { outcome := .skipped, events := [.modelKept model.className], disk }
  | written {model : Model.Rendered} {after : Disk}
      (hrender : Model.render (source disk) schema table = .ok model)
      (hfree : layout.force = false → disk.pathExists (layout.modelFile model.className) = false)
      (hwrote : disk.Wrote layout.modelsPath (model.className ++ ".php") (.text model.contents)
        after) :
      ModelMade layout source schema table disk
        { outcome := .written, events := [.modelWritten model.className], disk := after }
  | notWritten {model : Model.Rendered} {after : Disk} {fault : Disk.Fault}
      (hrender : Model.render (source disk) schema table = .ok model)
      (habandoned : disk.Abandoned layout.modelsPath (model.className ++ ".php")
        (.text model.contents) fault after) :
      ModelMade layout source schema table disk
        { outcome := .failed, events := [.notWritten (layout.modelFile model.className) fault],
          disk := after }

/-- Generating a model goes in one of these ways. -/
theorem modelMade_modelStep (hwell : disk.WellFormed) :
    ModelMade layout source schema table disk (modelStep layout source schema table disk) := by
  unfold modelStep
  split
  case h_1 error hrender => exact .notRendered hrender
  case h_2 model hrender =>
    have hname : IsName (model.className ++ ".php") := by
      rw [className_of_render hrender]
      exact Layout.isName_modelFile table.name
    dsimp only
    split
    case isTrue hkept =>
      rw [Bool.and_eq_true, Bool.not_eq_true'] at hkept
      exact .kept hrender hkept.1 hkept.2
    case isFalse hfree =>
      rw [Bool.and_eq_true, Bool.not_eq_true', not_and] at hfree
      unfold writeFile
      split
      case h_1 after hwrite =>
        refine .written hrender (fun hforce => ?_) (Disk.wrote_of_writeThrough hwell hname hwrite)
        exact Bool.eq_false_iff.mpr fun hexists => hfree hexists hforce
      case h_2 after fault hwrite =>
        exact .notWritten hrender (Disk.abandoned_of_writeThrough hwell hname hwrite)

/-- The names of the files in a directory that are for a migration. A directory that cannot be
listed has none. -/
def existingNames (disk : Disk) (directory migrationName : String) : List String :=
  match disk.list directory with
  | .error _ => []
  | .ok names => names.filter (Text.hasEnding (migrationEnding migrationName))

/-- The files that are for a migration are there under their names. -/
theorem existingMigrations_eq (disk : Disk) (directory migrationName : String) :
    existingMigrations disk directory migrationName =
      (existingNames disk directory migrationName).map (joinPath directory) := by
  cases hlist : disk.list directory <;> simp [existingMigrations, existingNames, hlist]

/-- A file is found for a migration when its directory can be listed, the file is in it and its name
ends as it should. -/
theorem mem_existingNames_iff {directory migrationName file : String} :
    file ∈ existingNames disk directory migrationName ↔
      (∃ names, disk.list directory = .ok names) ∧
        Text.hasEnding (migrationEnding migrationName) file = true ∧
        (disk.node? (disk.placeOf directory ++ [file])).isSome := by
  unfold existingNames
  split
  case h_1 fault hlist => simp [hlist]
  case h_2 names hlist =>
    obtain ⟨-, -, -, -, rfl⟩ := Disk.list_eq_ok_iff.mp hlist
    rw [List.mem_filter, Disk.mem_namesIn_iff]
    simp [hlist, and_comm]

/-- Removing files makes the disk shrink by some of them, and by all of them if nothing is told. -/
theorem shrinks_removeAll {touched : Location → Prop} {directory : String} {names : List String}
    {after : Disk} {removals : List Event} (hwell : disk.WellFormed)
    (hnames : ∀ file ∈ names, IsName file ∧ touched (disk.placeOf directory ++ [file]))
    (hremove : removeAll disk (names.map (joinPath directory)) = (after, removals)) :
    disk.Shrinks touched after ∧
      (Fine removals → ∀ file ∈ names, after.node? (disk.placeOf directory ++ [file]) = none) := by
  induction names generalizing disk after removals with
  | nil =>
      cases hremove
      exact ⟨.refl hwell, fun _ file hfile => nomatch hfile⟩
  | cons file rest ih =>
      obtain ⟨⟨hname, htouched⟩, hrest⟩ := List.forall_mem_cons.mp hnames
      rw [List.map_cons, removeAll] at hremove
      split at hremove
      case h_1 cleared hcleared =>
        obtain ⟨hfirst, hgone⟩ := Disk.remove_joinPath hwell hname hcleared
        rw [← hfirst.placeOf] at hrest hgone ⊢
        obtain ⟨hothers, hclear⟩ := ih hfirst.wellFormed hrest hremove
        refine ⟨(hfirst.mono ?_).trans hothers, fun hfine => ?_⟩
        · rintro place rfl
          exact htouched
        · exact List.forall_mem_cons.mpr ⟨hothers.node?_eq_none hgone, hclear hfine⟩
      case h_2 fault hfault =>
        obtain ⟨hothers, -⟩ := ih hwell hrest rfl
        cases hremove
        exact ⟨hothers, fun hfine => nomatch hfine _ List.mem_cons_self⟩

/-- The places of the files that are for a migration. -/
def isExistingPlace (disk : Disk) (directory migrationName : String) (place : Location) : Prop :=
  ∃ file ∈ existingNames disk directory migrationName, place = disk.placeOf directory ++ [file]

/-- Files are found for a migration that is generated only with force. -/
theorem forced_of_isExistingPlace {name : String} {place : Location}
    (hfree : layout.force = false → existingNames disk layout.migrationsPath name = [])
    (hexisting : isExistingPlace disk layout.migrationsPath name place) : layout.force = true := by
  obtain ⟨file, hfile, -⟩ := hexisting
  cases hforce : layout.force with
  | true => rfl
  | false =>
      rw [hfree hforce] at hfile
      cases hfile

/-- The files for a migration were removed, or what could not be removed was told. -/
structure Removed (disk : Disk) (directory migrationName : String) (removals : List Event)
    (after : Disk) : Prop
    extends disk.Shrinks (isExistingPlace disk directory migrationName) after where
  gone : Fine removals → ∀ file ∈ existingNames disk directory migrationName,
    after.node? (disk.placeOf directory ++ [file]) = none
  idle : existingNames disk directory migrationName = [] → after = disk

/-- Removing the files for a migration. -/
theorem removed_of_removeAll {directory migrationName : String} {after : Disk}
    {removals : List Event} (hwell : disk.WellFormed)
    (hremove : removeAll disk
      ((existingNames disk directory migrationName).map (joinPath directory)) = (after, removals)) :
    Removed disk directory migrationName removals after := by
  have hnames : ∀ file ∈ existingNames disk directory migrationName, IsName file ∧
      isExistingPlace disk directory migrationName (disk.placeOf directory ++ [file]) := by
    intro file hfile
    obtain ⟨node, hnode⟩ := Option.isSome_iff_exists.mp (mem_existingNames_iff.mp hfile).2.2
    exact ⟨(hwell _ _ _ hnode).1, file, hfile, rfl⟩
  obtain ⟨hshrinks, hgone⟩ := shrinks_removeAll hwell hnames hremove
  refine { hshrinks with gone := hgone, idle := fun hnone => ?_ }
  rw [hnone] at hremove
  exact (congrArg Prod.fst hremove).symm

/-- The ways in which generating a migration can go, with the number for the next one, told by the
operations that are tried. Whatever the stamp is, it goes in one of these ways. -/
inductive MigrationTried (layout : Layout) (source : Stub.Source) (schema : Schema) (table : Table)
    (sequence : Nat) (disk : Disk) : Step × Nat → Prop
  | kept (hexists : existingNames disk layout.migrationsPath
        (Convention.migrationName table.name) ≠ [])
      (hforce : layout.force = false) :
      MigrationTried layout source schema table sequence disk
        ({ outcome := .skipped, events := [.migrationKept table.name], disk }, sequence)
  | notRendered {error : RenderError}
      (hrender : Migration.render (source disk) schema table = .error error) :
      MigrationTried layout source schema table sequence disk
        ({ outcome := .failed, events := [.migrationNotRendered table.name error], disk }, sequence)
  | written {migration : Migration.Rendered} {cleared after : Disk} {removals : List Event}
      (hrender : Migration.render (source disk) schema table = .ok migration)
      (hfree : layout.force = false →
        existingNames disk layout.migrationsPath migration.name = [])
      (hremoved : Removed disk layout.migrationsPath migration.name removals cleared)
      (hwrite : cleared.writeThrough (layout.migrationFile sequence migration.name)
        (.text migration.contents) = (after, none)) :
      MigrationTried layout source schema table sequence disk
        ({ outcome := .written, events := removals ++ [.migrationWritten table.name],
           disk := after }, sequence + 1)
  | notWritten {migration : Migration.Rendered} {cleared after : Disk} {removals : List Event}
      {fault : Disk.Fault}
      (hrender : Migration.render (source disk) schema table = .ok migration)
      (hfree : layout.force = false →
        existingNames disk layout.migrationsPath migration.name = [])
      (hremoved : Removed disk layout.migrationsPath migration.name removals cleared)
      (hwrite : cleared.writeThrough (layout.migrationFile sequence migration.name)
        (.text migration.contents) = (after, some fault)) :
      MigrationTried layout source schema table sequence disk
        ({ outcome := .failed,
           events := removals ++
            [.notWritten (layout.migrationFile sequence migration.name) fault],
           disk := after }, sequence)

/-- Generating a migration goes in one of these ways. -/
theorem migrationTried_migrationStep (hwell : disk.WellFormed) (sequence : Nat) :
    MigrationTried layout source schema table sequence disk
      (migrationStep layout source schema table sequence disk) := by
  unfold migrationStep
  simp only [existingMigrations_eq, List.isEmpty_map]
  split
  case isTrue hkept =>
    rw [Bool.and_eq_true, Bool.not_eq_true', Bool.not_eq_true'] at hkept
    exact .kept (List.isEmpty_eq_false_iff.mp hkept.1) hkept.2
  case isFalse hnot =>
    rw [Bool.and_eq_true, Bool.not_eq_true', Bool.not_eq_true', not_and] at hnot
    split
    case h_1 error hrender => exact .notRendered hrender
    case h_2 migration hrender =>
      rw [← name_of_render hrender] at hnot ⊢
      have hfree (hforce : layout.force = false) :
          existingNames disk layout.migrationsPath migration.name = [] :=
        Decidable.byContradiction fun hne => hnot (List.isEmpty_eq_false_iff.mpr hne) hforce
      cases hremove : removeAll disk ((existingNames disk layout.migrationsPath
        migration.name).map (joinPath layout.migrationsPath)) with
      | mk cleared removals =>
          have hremoved := removed_of_removeAll hwell hremove
          cases hwrite : cleared.writeThrough (layout.migrationFile sequence migration.name)
            (.text migration.contents) with
          | mk after fault? =>
              simp only [writeFile, hwrite]
              cases fault? with
              | none => exact .written hrender hfree hremoved hwrite
              | some fault => exact .notWritten hrender hfree hremoved hwrite

/-- The ways in which generating a migration can go under a date, with the number for the next one
and what becomes of the disk. -/
inductive MigrationMade (layout : Layout) (source : Stub.Source) (schema : Schema) (table : Table)
    (sequence : Nat) (disk : Disk) : Step × Nat → Prop
  | kept (hexists : existingNames disk layout.migrationsPath
        (Convention.migrationName table.name) ≠ [])
      (hforce : layout.force = false) :
      MigrationMade layout source schema table sequence disk
        ({ outcome := .skipped, events := [.migrationKept table.name], disk }, sequence)
  | notRendered {error : RenderError}
      (hrender : Migration.render (source disk) schema table = .error error) :
      MigrationMade layout source schema table sequence disk
        ({ outcome := .failed, events := [.migrationNotRendered table.name error], disk }, sequence)
  | written {migration : Migration.Rendered} {cleared after : Disk} {removals : List Event}
      (hrender : Migration.render (source disk) schema table = .ok migration)
      (hfree : layout.force = false →
        existingNames disk layout.migrationsPath migration.name = [])
      (hremoved : Removed disk layout.migrationsPath migration.name removals cleared)
      (hwrote : cleared.Wrote layout.migrationsPath
        (layout.migrationFileName sequence migration.name) (.text migration.contents) after) :
      MigrationMade layout source schema table sequence disk
        ({ outcome := .written, events := removals ++ [.migrationWritten table.name],
           disk := after }, sequence + 1)
  | notWritten {migration : Migration.Rendered} {cleared after : Disk} {removals : List Event}
      {fault : Disk.Fault}
      (hrender : Migration.render (source disk) schema table = .ok migration)
      (hfree : layout.force = false →
        existingNames disk layout.migrationsPath migration.name = [])
      (hremoved : Removed disk layout.migrationsPath migration.name removals cleared)
      (habandoned : cleared.Abandoned layout.migrationsPath
        (layout.migrationFileName sequence migration.name) (.text migration.contents) fault after) :
      MigrationMade layout source schema table sequence disk
        ({ outcome := .failed,
           events := removals ++
            [.notWritten (layout.migrationFile sequence migration.name) fault],
           disk := after }, sequence)

/-- Under a date, the file of a migration has a name in the directory of migrations, so what the
operations do to the disk can be told. -/
theorem MigrationTried.made {sequence : Nat} {result : Step × Nat}
    (hstamp : Layout.isDateStamp layout.stamp = true)
    (htried : MigrationTried layout source schema table sequence disk result) :
    MigrationMade layout source schema table sequence disk result := by
  have hname {migration : Migration.Rendered}
      (hrender : Migration.render (source disk) schema table = .ok migration) :
      IsName (layout.migrationFileName sequence migration.name) := by
    rw [name_of_render hrender]
    exact Layout.isName_migrationFileName hstamp sequence table.name
  cases htried with
  | kept hexists hforce => exact .kept hexists hforce
  | notRendered hrender => exact .notRendered hrender
  | written hrender hfree hremoved hwrite =>
      exact .written hrender hfree hremoved
        (Disk.wrote_of_writeThrough hremoved.wellFormed (hname hrender) hwrite)
  | notWritten hrender hfree hremoved hwrite =>
      exact .notWritten hrender hfree hremoved
        (Disk.abandoned_of_writeThrough hremoved.wellFormed (hname hrender) hwrite)

/-- Under a date, generating a migration goes in one of these ways. -/
theorem migrationMade_migrationStep (hwell : disk.WellFormed)
    (hstamp : Layout.isDateStamp layout.stamp = true) (sequence : Nat) :
    MigrationMade layout source schema table sequence disk
      (migrationStep layout source schema table sequence disk) :=
  (migrationTried_migrationStep hwell sequence).made hstamp

/-- What has been told stays told. -/
theorem events_prefix_through (progress : Progress) (tables : List Table) :
    progress.events <+: (progress.through layout source schema tables).events := by
  induction tables generalizing progress with
  | nil => exact List.prefix_refl _
  | cons table rest ih =>
      refine List.IsPrefix.trans ?_ (ih (progress.advance layout source schema table))
      exact ⟨_, (List.append_assoc _ _ _).symm⟩

/-- A disk stays a tree when a model is generated. -/
theorem ModelMade.wellFormed {step : Step} (hwell : disk.WellFormed)
    (hmodel : ModelMade layout source schema table disk step) : step.disk.WellFormed := by
  cases hmodel with
  | notRendered | kept => exact hwell
  | written _ _ hwrote => exact hwrote.wellFormed
  | notWritten _ habandoned => exact habandoned.wellFormed

/-- A disk stays a tree when a migration is generated. -/
theorem MigrationMade.wellFormed {sequence next : Nat} {step : Step} (hwell : disk.WellFormed)
    (hmigration : MigrationMade layout source schema table sequence disk (step, next)) :
    step.disk.WellFormed := by
  cases hmigration with
  | kept | notRendered => exact hwell
  | written _ _ _ hwrote => exact hwrote.wellFormed
  | notWritten _ _ _ habandoned => exact habandoned.wellFormed

/-- The model of a table and then its migration are generated in one of these ways each. -/
theorem made_advance (hwell : disk.WellFormed) (hstamp : Layout.isDateStamp layout.stamp = true)
    (sequence : Nat) :
    ModelMade layout source schema table disk (modelStep layout source schema table disk) ∧
      MigrationMade layout source schema table sequence
        (modelStep layout source schema table disk).disk
        (migrationStep layout source schema table sequence
          (modelStep layout source schema table disk).disk) := by
  have hmodel : ModelMade layout source schema table disk _ := modelMade_modelStep hwell
  exact ⟨hmodel, migrationMade_migrationStep (hmodel.wellFormed hwell) hstamp sequence⟩

/-- Every way in which the two files of one more table can be generated without a fault keeps a
property of the tables that were dealt with, the counts, the next number and the disk. -/
def StepKeeps (layout : Layout) (source : Stub.Source) (schema : Schema)
    (property : List Table → Report → Nat → Disk → Prop) : Prop :=
  ∀ done table report sequence disk model migration next,
    done ++ [table] <+: schema.tables → disk.WellFormed → property done report sequence disk →
    ModelMade layout source schema table disk model → Fine model.events →
    MigrationMade layout source schema table sequence model.disk (migration, next) →
    Fine migration.events →
    property (done ++ [table]) ((report.addModel model.outcome).addMigration migration.outcome)
      next migration.disk

variable {property : List Table → Report → Nat → Disk → Prop}

/-- What holds of some first tables and the state after them is carried along the others. -/
theorem through_induction (hstamp : Layout.isDateStamp layout.stamp = true)
    (hstep : StepKeeps layout source schema property) (progress : Progress) {done rest : List Table}
    (hsplit : done ++ rest = schema.tables) (hwell : progress.disk.WellFormed)
    (hproperty : property done progress.report progress.sequence progress.disk)
    (hfine : Fine (progress.through layout source schema rest).events) :
    let last := progress.through layout source schema rest
    property schema.tables last.report last.sequence last.disk := by
  induction rest generalizing progress done with
  | nil =>
      rw [List.append_nil] at hsplit
      exact hsplit ▸ hproperty
  | cons table rest ih =>
      rw [List.append_cons] at hsplit
      let next := progress.advance layout source schema table
      have htold : next.events <+: (next.through layout source schema rest).events :=
        events_prefix_through next rest
      have hfirst : Fine next.events := fun event hevent => hfine event (htold.subset hevent)
      obtain ⟨hmodels, hmigrations⟩ := fine_append.mp hfirst
      obtain ⟨hmodel, hmigration⟩ := made_advance hwell hstamp progress.sequence
      exact ih next hsplit (hmigration.wellFormed (hmodel.wellFormed hwell))
        (hstep _ _ _ _ _ _ _ _ ⟨rest, hsplit⟩ hwell hproperty hmodel (fine_append.mp hmodels).2
          hmigration hmigrations) hfine

/-- What holds at the start and is kept table by table holds after a run without a fault. -/
theorem run_induction (hstamp : Layout.isDateStamp layout.stamp = true)
    (hstep : StepKeeps layout source schema property) (hwell : disk.WellFormed)
    (hstart : property [] {} 0 disk) (hfine : Fine (run layout source schema disk).events) :
    property schema.tables (run layout source schema disk).report
      (run layout source schema disk).sequence (run layout source schema disk).disk :=
  through_induction hstamp hstep { disk } rfl hwell hstart (fine_append.mp hfine).1

end SchemaScaffold.Generation
