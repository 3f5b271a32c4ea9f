import SchemaScaffold.Proofs.Generation.Step

/-!
# What a run tries, one file after another

A run tries to bring about two files for every table, whatever became of the files before them. Here
it is told as the list of these attempts. Each of them starts on the disk that the one before it
left, and the number that it has for a migration is the count of the migrations written so far. So
what a run reports can be compared with what it did, and what is said of every file that a run
dealt with is said of its attempts, by induction along them.
-/

namespace SchemaScaffold.Generation

open Schema (Table)

variable {layout : Layout} {source : Stub.Source} {schema : Schema} {start disk : Disk}

/-- One file that a run tries to bring about: the model or the migration of a table, on the disk as
it is by then. The number is for the migration, and a model passes it on. -/
structure Attempt where
  kind : StubKind
  table : Table
  sequence : Nat
  disk : Disk

namespace Attempt

/-- What is done for the file, and the number for the next migration. -/
def result (layout : Layout) (source : Stub.Source) (schema : Schema) (attempt : Attempt) :
    Step × Nat :=
  match attempt.kind with
  | .model => (modelStep layout source schema attempt.table attempt.disk, attempt.sequence)
  | .migration => migrationStep layout source schema attempt.table attempt.sequence attempt.disk

/-- How it goes with the file. -/
def outcome (layout : Layout) (source : Stub.Source) (schema : Schema) (attempt : Attempt) :
    Outcome :=
  (attempt.result layout source schema).1.outcome

/-- Whether a file of some kind is written. -/
def wrote (layout : Layout) (source : Stub.Source) (schema : Schema) (kind : StubKind)
    (attempt : Attempt) : Bool :=
  attempt.kind = kind && attempt.outcome layout source schema = .written

/-- An attempt for a model goes in one of the ways of models. -/
theorem modelMade {attempt : Attempt} (hwell : attempt.disk.WellFormed)
    (hkind : attempt.kind = .model) :
    ModelMade layout source schema attempt.table attempt.disk
      (attempt.result layout source schema).1 := by
  simp only [result, hkind]
  exact modelMade_modelStep hwell

/-- An attempt for a migration goes in one of the ways of migrations. -/
theorem migrationTried {attempt : Attempt} (hwell : attempt.disk.WellFormed)
    (hkind : attempt.kind = .migration) :
    MigrationTried layout source schema attempt.table attempt.sequence attempt.disk
      (attempt.result layout source schema) := by
  simp only [result, hkind]
  exact migrationTried_migrationStep hwell attempt.sequence

end Attempt

/-- The attempt for the model of the next table. -/
def Progress.modelAttempt (progress : Progress) (table : Table) : Attempt where
  kind := .model
  table := table
  sequence := progress.sequence
  disk := progress.disk

/-- The attempt for the migration of the next table, which follows on that for the model. -/
def Progress.migrationAttempt (layout : Layout) (source : Stub.Source) (schema : Schema)
    (progress : Progress) (table : Table) : Attempt where
  kind := .migration
  table := table
  sequence := progress.sequence
  disk := ((progress.modelAttempt table).result layout source schema).1.disk

/-- The attempts for tables one after another, going on from a run so far. -/
def attemptsFrom (layout : Layout) (source : Stub.Source) (schema : Schema) (progress : Progress) :
    List Table → List Attempt
  | [] => []
  | table :: rest =>
    progress.modelAttempt table :: progress.migrationAttempt layout source schema table ::
      attemptsFrom layout source schema (progress.advance layout source schema table) rest

/-- The attempts of a run. -/
def attempts (layout : Layout) (source : Stub.Source) (schema : Schema) (disk : Disk) :
    List Attempt :=
  attemptsFrom layout source schema { disk } schema.tables

/-- The counts of attempts by how they went. -/
def reportOf (layout : Layout) (source : Stub.Source) (schema : Schema) (attempts : List Attempt) :
    Report where
  models := attempts.countP (·.wrote layout source schema .model)
  migrations := attempts.countP (·.wrote layout source schema .migration)
  skipped := attempts.countP (·.outcome layout source schema = .skipped)
  failed := attempts.countP (·.outcome layout source schema = .failed)

/-- The model and then the migration of every table, in the order of the tables. -/
def expectedFiles (tables : List Table) : List (StubKind × Table) :=
  tables.flatMap fun table => [(.model, table), (.migration, table)]

/-- Both files of every table are tried exactly once, in order. -/
theorem map_attemptsFrom (progress : Progress) (tables : List Table) :
    (attemptsFrom layout source schema progress tables).map (fun attempt =>
      (attempt.kind, attempt.table)) = expectedFiles tables := by
  induction tables generalizing progress with
  | nil => rfl
  | cons table rest ih =>
      rw [attemptsFrom, List.map_cons, List.map_cons, ih]
      rfl

/-- There are two attempts for every table. -/
theorem length_attemptsFrom (progress : Progress) (tables : List Table) :
    (attemptsFrom layout source schema progress tables).length = 2 * tables.length := by
  induction tables generalizing progress with
  | nil => rfl
  | cons table rest ih =>
      rw [attemptsFrom, List.length_cons, List.length_cons, ih, List.length_cons, Nat.mul_succ]

/-- Attempts are made for the tables. -/
theorem table_mem_of_mem_attemptsFrom {progress : Progress} {tables : List Table}
    {attempt : Attempt} (hattempt : attempt ∈ attemptsFrom layout source schema progress tables) :
    attempt.table ∈ tables := by
  have hfile := List.mem_map_of_mem (f := fun attempt : Attempt => (attempt.kind, attempt.table))
    hattempt
  rw [map_attemptsFrom, expectedFiles] at hfile
  obtain ⟨table, htable, hpair⟩ := List.mem_flatMap.mp hfile
  simp only [List.mem_cons, List.not_mem_nil, or_false, Prod.mk.injEq] at hpair
  rcases hpair with ⟨-, hsame⟩ | ⟨-, hsame⟩ <;> exact hsame ▸ htable

/-- Every attempt is counted, and none twice. -/
theorem total_reportOf (attempts : List Attempt) :
    let report := reportOf layout source schema attempts
    report.models + report.migrations + report.skipped + report.failed = attempts.length := by
  intro report
  simp only [report, reportOf]
  induction attempts with
  | nil => rfl
  | cons attempt rest ih =>
      simp only [List.countP_cons, List.length_cons, ← ih]
      have honce :
          (if attempt.wrote layout source schema .model then 1 else 0) +
            (if attempt.wrote layout source schema .migration then 1 else 0) +
            (if decide (attempt.outcome layout source schema = .skipped) then 1 else 0) +
            (if decide (attempt.outcome layout source schema = .failed) then 1 else 0) = 1 := by
        unfold Attempt.wrote
        cases attempt.kind <;> cases attempt.outcome layout source schema <;> rfl
      omega

/-- Counting a model adds its attempt to the counts. -/
theorem reportOf_concat_model (attempts : List Attempt) {attempt : Attempt}
    (hkind : attempt.kind = .model) :
    reportOf layout source schema (attempts ++ [attempt]) =
      (reportOf layout source schema attempts).addModel
        (attempt.outcome layout source schema) := by
  simp only [reportOf, List.countP_append, List.countP_singleton, Attempt.wrote, hkind]
  cases attempt.outcome layout source schema <;> rfl

/-- Counting a migration adds its attempt to the counts. -/
theorem reportOf_concat_migration (attempts : List Attempt) {attempt : Attempt}
    (hkind : attempt.kind = .migration) :
    reportOf layout source schema (attempts ++ [attempt]) =
      (reportOf layout source schema attempts).addMigration
        (attempt.outcome layout source schema) := by
  simp only [reportOf, List.countP_append, List.countP_singleton, Attempt.wrote, hkind]
  cases attempt.outcome layout source schema <;> rfl

/-- Attempts that follow on one another: each starts on the disk and under the number that the one
before it left. -/
inductive Trail (layout : Layout) (source : Stub.Source) (schema : Schema) (start : Disk) :
    List Attempt → Nat → Disk → Prop
  | start : Trail layout source schema start [] 0 start
  | extend {attempts : List Attempt} (attempt : Attempt)
      (before : Trail layout source schema start attempts attempt.sequence attempt.disk) :
      Trail layout source schema start (attempts ++ [attempt])
        (attempt.result layout source schema).2 (attempt.result layout source schema).1.disk

namespace Trail

variable {attempts before behind : List Attempt} {attempt : Attempt} {sequence : Nat}

/-- Up to each attempt there is a trail that ends where the attempt starts. -/
theorem upTo (htrail : Trail layout source schema start attempts sequence disk)
    (hsplit : attempts = before ++ attempt :: behind) :
    Trail layout source schema start before attempt.sequence attempt.disk := by
  induction htrail generalizing behind with
  | start => simp at hsplit
  | extend last htrail ih =>
      rcases List.eq_nil_or_concat behind with rfl | ⟨front, other, rfl⟩
      · obtain ⟨rfl, rfl⟩ := List.append_singleton_inj.mp hsplit
        exact htrail
      · rw [List.concat_eq_append, ← List.cons_append, ← List.append_assoc] at hsplit
        exact ih (List.append_singleton_inj.mp hsplit).1

/-- The number goes up by one where a migration is written, and only there. -/
theorem next_eq (attempt : Attempt) :
    (attempt.result layout source schema).2 =
      attempt.sequence + (attempt.wrote layout source schema .migration).toNat := by
  unfold Attempt.wrote Attempt.outcome Attempt.result
  cases attempt.kind with
  | model => simp
  | migration =>
      simp only [migrationStep]
      split
      case isTrue => simp
      case isFalse =>
        split
        case h_1 => simp
        case h_2 migration _ =>
          simp only [decide_true, Bool.true_and]
          split
          case isTrue hwritten => simp [hwritten]
          case isFalse hfailed => simp [hfailed]

/-- The number for the next migration is the count of the migrations written so far. -/
theorem sequence_eq (htrail : Trail layout source schema start attempts sequence disk) :
    sequence = attempts.countP (·.wrote layout source schema .migration) := by
  induction htrail with
  | start => rfl
  | extend attempt _ ih =>
      rw [next_eq, ih, List.countP_append, List.countP_singleton]
      cases attempt.wrote layout source schema .migration <;> rfl

end Trail

/-- What one more table adds to a run is what its two attempts add. -/
theorem advance_eq (progress : Progress) (table : Table) :
    progress.advance layout source schema table =
      let model := progress.modelAttempt table
      let migration := progress.migrationAttempt layout source schema table
      { report := (progress.report.addModel (model.outcome layout source schema)).addMigration
          (migration.outcome layout source schema)
        sequence := (migration.result layout source schema).2
        events := progress.events ++ (model.result layout source schema).1.events ++
          (migration.result layout source schema).1.events
        disk := (migration.result layout source schema).1.disk } := by
  unfold Progress.advance Attempt.outcome Attempt.result Progress.migrationAttempt
    Progress.modelAttempt Attempt.result
  dsimp only

/-- What a run did so far is told by its attempts. -/
structure Recorded (layout : Layout) (source : Stub.Source) (schema : Schema) (start : Disk)
    (attempts : List Attempt) (progress : Progress) : Prop where
  trail : Trail layout source schema start attempts progress.sequence progress.disk
  report : progress.report = reportOf layout source schema attempts
  events : progress.events =
    attempts.flatMap fun attempt => (attempt.result layout source schema).1.events

/-- The attempt for a model passes the number on. -/
theorem next_modelAttempt (progress : Progress) (table : Table) :
    ((progress.modelAttempt table).result layout source schema).2 = progress.sequence := by
  simp only [Attempt.result, Progress.modelAttempt]

/-- The two attempts for one more table tell what is done for it. -/
theorem Recorded.advance {done : List Attempt} {progress : Progress}
    (hrecorded : Recorded layout source schema start done progress) (table : Table) :
    Recorded layout source schema start
      (done ++ [progress.modelAttempt table] ++
        [progress.migrationAttempt layout source schema table])
      (progress.advance layout source schema table) := by
  have hmodel : Trail layout source schema start (done ++ [progress.modelAttempt table])
      (progress.migrationAttempt layout source schema table).sequence
      (progress.migrationAttempt layout source schema table).disk := by
    have hextended := Trail.extend (progress.modelAttempt table) hrecorded.trail
    rw [next_modelAttempt] at hextended
    simpa only [Progress.migrationAttempt] using hextended
  rw [advance_eq]
  dsimp only
  constructor
  case trail => exact .extend (progress.migrationAttempt layout source schema table) hmodel
  case report =>
    rw [reportOf_concat_migration _ rfl, reportOf_concat_model _ rfl, ← hrecorded.report]
  case events =>
    rw [List.flatMap_append, List.flatMap_append, ← hrecorded.events, List.flatMap_singleton,
      List.flatMap_singleton]

/-- The attempts for further tables tell what is done for them. -/
theorem Recorded.through {done : List Attempt} {progress : Progress}
    (hrecorded : Recorded layout source schema start done progress) (tables : List Table) :
    Recorded layout source schema start
      (done ++ attemptsFrom layout source schema progress tables)
      (progress.through layout source schema tables) := by
  induction tables generalizing progress done with
  | nil => rwa [attemptsFrom, List.append_nil]
  | cons table rest ih =>
      have hrest := ih (hrecorded.advance table)
      rwa [List.append_assoc, List.append_assoc] at hrest

/-- The attempts of a run tell what it did, up to the line that says it is finished. -/
theorem recorded_attempts (disk : Disk) :
    Recorded layout source schema disk (attempts layout source schema disk)
      (Progress.through layout source schema { disk } schema.tables) := by
  have hstart : Recorded layout source schema disk [] { disk } := ⟨.start, rfl, rfl⟩
  exact hstart.through schema.tables

end SchemaScaffold.Generation
