import SchemaScaffold.Proofs.Generation.Attempt
import SchemaScaffold.Proofs.Generation.Ownership

/-!
# A project over many runs

A schema grows, and the project is generated again and again without force. Every run counts the
migrations that it writes itself, from zero on, and leaves those of earlier runs as they are. So the
names of the files say in which order one run wrote them, which is the order of the tables; they do
not say which run it was. Every run may meet failures of its own. A migration whose writing broke
off has its file all the same, and later runs take it for written.
-/

namespace SchemaScaffold.Generation

open Convention (migrationName)
open Disk (IsName)
open Layout (hasEnding_migrationFileName isName_migrationFileName migrationFileName_lt)
open Schema (Table)
open Text (hasEnding)

variable {layout : Layout} {source : Stub.Source} {schema : Schema} {start disk after : Disk}

/-- The tables whose migrations some attempts wrote, in order. -/
def migrated (layout : Layout) (source : Stub.Source) (schema : Schema) (attempts : List Attempt) :
    List Table :=
  (attempts.filter (·.wrote layout source schema .migration)).map (·.table)

/-- One more attempt adds its table if it writes a migration. -/
theorem migrated_concat (attempts : List Attempt) (attempt : Attempt) :
    migrated layout source schema (attempts ++ [attempt]) =
      migrated layout source schema attempts ++
        if attempt.wrote layout source schema .migration then [attempt.table] else [] := by
  rw [migrated, migrated, List.filter_append, List.map_append]
  cases hwrote : attempt.wrote layout source schema .migration <;> simp [hwrote]

/-- The number for the next migration is the count of those written. -/
theorem Trail.sequence_eq_length {attempts : List Attempt} {sequence : Nat}
    (htrail : Trail layout source schema start attempts sequence disk) :
    sequence = (migrated layout source schema attempts).length := by
  rw [htrail.sequence_eq, migrated, List.length_map, List.countP_eq_length_filter]

/-- Migrations are written in the order of the tables. -/
theorem migrated_sublist (progress : Progress) (tables : List Table) :
    (migrated layout source schema (attemptsFrom layout source schema progress tables)).Sublist
      tables := by
  induction tables generalizing progress with
  | nil => exact .refl []
  | cons table rest ih =>
      have hrest := ih (progress.advance layout source schema table)
      have hmodel :
          (progress.modelAttempt table).wrote layout source schema .migration = false := rfl
      rw [attemptsFrom, migrated, List.filter_cons_of_neg (by simp [hmodel])]
      cases hwrote : (progress.migrationAttempt layout source schema table).wrote layout source
          schema .migration with
      | false =>
          rw [List.filter_cons_of_neg (by simp [hwrote])]
          exact hrest.cons table
      | true =>
          rw [List.filter_cons_of_pos hwrote, List.map_cons]
          exact hrest.cons_cons table

/-- Whether an event tells that a file was opened and the writing broke off. -/
def Event.isBreak : Event → Bool
  | .notWritten _ .brokenOff => true
  | _ => false

/-- A file that could not even be opened is not told so. -/
theorem Event.isBreak_of_ne {path : String} {fault : Disk.Fault} (hfault : fault ≠ .brokenOff) :
    (Event.notWritten path fault).isBreak = false := by
  cases fault with
  | brokenOff => exact absurd rfl hfault
  | _ => rfl

/-- Whether a migration failed after its file was opened, so that the file is there in part. -/
def Attempt.tore (layout : Layout) (source : Stub.Source) (schema : Schema) (attempt : Attempt) :
    Bool :=
  attempt.kind = .migration && attempt.outcome layout source schema = .failed &&
    (attempt.result layout source schema).1.events.getLast?.any Event.isBreak

/-- The tables whose migrations some attempts left in part, with the numbers that the files have. -/
def torn (layout : Layout) (source : Stub.Source) (schema : Schema) (attempts : List Attempt) :
    List (Nat × Table) :=
  (attempts.filter (·.tore layout source schema)).map fun attempt =>
    (attempt.sequence, attempt.table)

/-- One more attempt adds its table if it leaves a migration in part. -/
theorem torn_concat (attempts : List Attempt) (attempt : Attempt) :
    torn layout source schema (attempts ++ [attempt]) =
      torn layout source schema attempts ++
        if attempt.tore layout source schema then [(attempt.sequence, attempt.table)] else [] := by
  rw [torn, torn, List.filter_append, List.map_append]
  cases htore : attempt.tore layout source schema <;> simp [htore]

/-- A migration that was written is not left in part. -/
theorem Attempt.tore_of_wrote {attempt : Attempt}
    (hwrote : attempt.wrote layout source schema .migration = true) :
    attempt.tore layout source schema = false := by
  rw [wrote, Bool.and_eq_true, decide_eq_true_eq, decide_eq_true_eq] at hwrote
  simp [tore, hwrote.2]

/-- The tables whose migrations some attempts did not bring about. -/
def unmigrated (layout : Layout) (source : Stub.Source) (schema : Schema)
    (attempts : List Attempt) : List Table :=
  (attempts.filter fun attempt => attempt.kind = .migration &&
    attempt.outcome layout source schema = .failed).map (·.table)

/-- A migration that is left in part was not brought about. -/
theorem mem_unmigrated_of_torn {attempts : List Attempt} {entry : Nat × Table}
    (hentry : entry ∈ torn layout source schema attempts) :
    entry.2 ∈ unmigrated layout source schema attempts := by
  obtain ⟨attempt, hattempt, rfl⟩ := List.mem_map.mp hentry
  obtain ⟨hmem, htore⟩ := List.mem_filter.mp hattempt
  rw [Attempt.tore, Bool.and_eq_true] at htore
  exact List.mem_map_of_mem (List.mem_filter.mpr ⟨hmem, htore.1⟩)

/-- The migration of every table is tried. -/
theorem exists_migration_attempt {progress : Progress} {tables : List Table} {table : Table}
    (htable : table ∈ tables) :
    ∃ attempt ∈ attemptsFrom layout source schema progress tables,
      attempt.kind = .migration ∧ attempt.table = table := by
  have hfile : (StubKind.migration, table) ∈
      (attemptsFrom layout source schema progress tables).map
        fun attempt => (attempt.kind, attempt.table) := by
    rw [map_attemptsFrom]
    exact List.mem_flatMap.mpr ⟨table, htable, by simp⟩
  obtain ⟨attempt, hattempt, hpair⟩ := List.mem_map.mp hfile
  exact ⟨attempt, hattempt, (Prod.mk.inj hpair).1, (Prod.mk.inj hpair).2⟩

/-- Nothing was found for the migration of an attempt, and its file was opened and written, whole or
in part. -/
structure Attempt.Begins (layout : Layout) (attempt : Attempt) (after : Disk) : Prop where
  unfound : existingNames attempt.disk layout.migrationsPath (migrationName attempt.table.name) = []
  wrote : ∃ content, attempt.disk.Wrote layout.migrationsPath
    (layout.migrationFileName attempt.sequence (migrationName attempt.table.name)) content after

/-- What one attempt leaves of the files for migrations: it adds one, whole or in part, or all of
them are what they were. -/
inductive Attempt.Leaves (layout : Layout) (source : Stub.Source) (schema : Schema)
    (attempt : Attempt) (after : Disk) : Prop
  | whole (hwrote : attempt.wrote layout source schema .migration = true)
      (hbegins : attempt.Begins layout after)
  | part (hwrote : attempt.wrote layout source schema .migration = false)
      (htore : attempt.tore layout source schema = true) (hbegins : attempt.Begins layout after)
  | nothing (hwrote : attempt.wrote layout source schema .migration = false)
      (htore : attempt.tore layout source schema = false)
      (hspares : ∀ name, Spares layout name attempt.disk after)

/-- Without force, every attempt leaves one of these. -/
theorem Attempt.leaves (source : Stub.Source) (schema : Schema) {attempt : Attempt}
    (hwell : attempt.disk.WellFormed) (hforce : layout.force = false)
    (hstamp : Layout.isDateStamp layout.stamp = true) :
    attempt.Leaves layout source schema (attempt.result layout source schema).1.disk := by
  cases hkind : attempt.kind with
  | model =>
      exact .nothing (by rw [wrote, hkind]; rfl) (by rw [tore, hkind]; rfl)
        ((modelMade hwell hkind).spares hwell)
  | migration =>
      have hmade : MigrationMade layout source schema attempt.table attempt.sequence attempt.disk
          (attempt.result layout source schema) := (migrationTried hwell hkind).made hstamp
      have hwrote : attempt.wrote layout source schema .migration =
          decide ((attempt.result layout source schema).1.outcome = .written) := by
        rw [wrote, outcome, hkind]
        rfl
      have htore : attempt.tore layout source schema =
          (decide ((attempt.result layout source schema).1.outcome = .failed) &&
            (attempt.result layout source schema).1.events.getLast?.any Event.isBreak) := by
        rw [tore, outcome, hkind]
        rfl
      generalize attempt.result layout source schema = result at *
      cases hmade with
      | kept | notRendered => exact .nothing hwrote htore fun _ => .refl hwell
      | written hrender hfree hremoved hwritten =>
          obtain rfl := hremoved.idle (hfree hforce)
          rw [name_of_render hrender] at hfree hwritten
          exact .whole hwrote ⟨hfree hforce, _, hwritten⟩
      | notWritten hrender hfree hremoved habandoned =>
          obtain rfl := hremoved.idle (hfree hforce)
          rw [List.getLast?_concat] at htore
          rw [name_of_render hrender] at hfree habandoned
          cases habandoned with
          | unopened hfault htouches hmade =>
              exact .nothing hwrote (htore.trans (Event.isBreak_of_ne hfault)) fun _ =>
                .of_unopened (fun _ => .inr) htouches hmade
          | stump _ hbegun => exact .part hwrote htore ⟨hfree hforce, _, hbegun⟩

/-- Without force, every attempt keeps all directories. -/
theorem Attempt.keeps {attempt : Attempt} (hwell : attempt.disk.WellFormed)
    (hforce : layout.force = false) (hstamp : Layout.isDateStamp layout.stamp = true) :
    attempt.disk.Keeps (attempt.result layout source schema).1.disk := by
  cases leaves source schema hwell hforce hstamp with
  | whole _ hbegins | part _ _ hbegins =>
      obtain ⟨content, hwrote⟩ := hbegins.wrote
      exact hwrote.toKeeps
  | nothing _ _ hspares => exact (hspares "").toKeeps

/-- A migration that is skipped is found already. -/
theorem Attempt.found_of_skipped {attempt : Attempt} (hwell : attempt.disk.WellFormed)
    (hkind : attempt.kind = .migration)
    (hskipped : attempt.outcome layout source schema = .skipped) :
    existingNames attempt.disk layout.migrationsPath (migrationName attempt.table.name) ≠ [] := by
  have htried : MigrationTried layout source schema attempt.table attempt.sequence attempt.disk
      (attempt.result layout source schema) := migrationTried hwell hkind
  unfold outcome at hskipped
  generalize attempt.result layout source schema = result at *
  cases htried with
  | kept hexists => exact hexists
  | notRendered | written | notWritten => cases hskipped

/-- Whether a run of a ledger wrote the migration of a table under a number. -/
def Booked (ledger : List (List Table)) (number : Nat) (table : Table) : Prop :=
  ∃ written ∈ ledger, written[number]? = some table

/-- A run that wrote nothing yet books nothing. -/
theorem booked_nil {ledger : List (List Table)} {number : Nat} {table : Table} :
    Booked (ledger ++ [[]]) number table ↔ Booked ledger number table := by
  simp [Booked, or_and_right, exists_or]

/-- When the last run of a ledger writes one more migration, it is booked under the next number. -/
theorem booked_concat {ledger : List (List Table)} {written : List Table} {number : Nat}
    {table other : Table} :
    Booked (ledger ++ [written ++ [other]]) number table ↔
      Booked (ledger ++ [written]) number table ∨ number = written.length ∧ table = other := by
  have hlast : (written ++ [other])[number]? = some table ↔
      written[number]? = some table ∨ number = written.length ∧ table = other := by
    rcases Nat.lt_trichotomy number written.length with hlt | rfl | hgt
    · simp [List.getElem?_append_left hlt, Nat.ne_of_lt hlt]
    · simp [eq_comm]
    · have hnone : (written ++ [other])[number]? = none :=
        List.getElem?_eq_none (by rw [List.length_append, List.length_singleton]; exact hgt)
      simp [hnone, List.getElem?_eq_none (Nat.le_of_lt hgt), Nat.ne_of_gt hgt]
  simp only [Booked, List.mem_append, List.mem_singleton, or_and_right, exists_or, exists_eq_left,
    hlast, or_assoc]

/-- What is booked stays booked when the last run of a ledger goes on. -/
theorem Booked.extend {ledger : List (List Table)} {written more : List Table} {number : Nat}
    {table : Table} (hbooked : Booked (ledger ++ [written]) number table) :
    Booked (ledger ++ [written ++ more]) number table := by
  obtain ⟨other, hother, hnumber⟩ := hbooked
  rcases List.mem_append.mp hother with hbefore | hlast
  · exact ⟨other, List.mem_append_left _ hbefore, hnumber⟩
  · obtain rfl := List.mem_singleton.mp hlast
    refine ⟨other ++ more, List.mem_append_right _ List.mem_cons_self, ?_⟩
    obtain ⟨hfits, -⟩ := List.getElem?_eq_some_iff.mp hnumber
    rw [List.getElem?_append_left hfits, hnumber]

/-- Whether a run began to write the migration of a table under a number: it wrote it, or the
writing broke off. -/
def Begun (ledger : List (List Table)) (stumps : List (Nat × Table)) (number : Nat)
    (table : Table) : Prop :=
  Booked ledger number table ∨ (number, table) ∈ stumps

/-- The files for the migrations of some tables are those that were begun. -/
def Files (layout : Layout) (tables : List Table) (begun : Nat → Table → Prop) (disk : Disk) :
    Prop :=
  ∀ table ∈ tables, ∀ file, hasEnding (migrationEnding (migrationName table.name)) file = true →
    ((disk.fileAt? (disk.placeOf layout.migrationsPath ++ [file])).isSome ↔
      ∃ number, begun number table ∧
        file = layout.migrationFileName number (migrationName table.name))

variable {tables : List Table} {begun later : Nat → Table → Prop}

/-- The same files are there while those for migrations are left alone. -/
theorem Files.of_spares (hfiles : Files layout tables begun disk)
    (hspares : ∀ name, Spares layout name disk after) : Files layout tables begun after := by
  intro table htable file hending
  rw [(hspares "").placeOf, (hspares _).fileAt? file hending]
  exact hfiles table htable file hending

/-- One more file is there, whether it was written whole or in part. -/
theorem Files.of_wrote (hfiles : Files layout tables begun disk)
    (hunrelated : tables.Pairwise Unrelated) {table : Table} (htable : table ∈ tables)
    {number : Nat} {content : Content}
    (hwrote : disk.Wrote layout.migrationsPath
      (layout.migrationFileName number (migrationName table.name)) content after)
    (hlater : ∀ other found, later other found ↔
      begun other found ∨ other = number ∧ found = table) : Files layout tables later after := by
  intro found hfound file hending
  rw [hwrote.placeOf, hwrote.fileAt?_eq]
  by_cases hnew : file = layout.migrationFileName number (migrationName table.name)
  · have hown : hasEnding (migrationEnding (migrationName table.name)) file = true :=
      hnew ▸ hasEnding_migrationFileName layout number (migrationName table.name)
    obtain rfl := eq_of_hasEnding hunrelated hfound htable hending hown
    rw [if_pos (by rw [hnew])]
    exact ⟨fun _ => ⟨number, (hlater _ _).mpr (.inr ⟨rfl, rfl⟩), hnew⟩, fun _ => rfl⟩
  · rw [if_neg (by simpa using hnew), hfiles found hfound file hending]
    refine exists_congr fun other => ?_
    rw [hlater, or_and_right, iff_self_or]
    rintro ⟨⟨rfl, rfl⟩, hfile⟩
    exact absurd hfile hnew

/-- What is known of a project after the runs of a ledger, the last of which need not be over. Where
the directory of migrations can be searched, none is begun twice. -/
structure Tracked (layout : Layout) (tables : List Table) (searched : Prop)
    (ledger : List (List Table)) (stumps : List (Nat × Table)) (disk : Disk) : Prop where
  wellFormed : disk.WellFormed
  files : Files layout tables (Begun ledger stumps) disk
  reached : ledger.flatten ++ stumps.map (·.2) ≠ [] →
    '\x00' ∉ layout.migrationsPath.toList ∧ disk.Leads layout.migrationsPath
  once : searched → (ledger.flatten ++ stumps.map (·.2)).Nodup

variable {searched : Prop} {ledger : List (List Table)} {written : List Table}
variable {stumps : List (Nat × Table)}

/-- A run that has yet to write something changes nothing. -/
theorem Tracked.begin (htracked : Tracked layout tables searched ledger stumps disk) :
    Tracked layout tables searched (ledger ++ [[]]) stumps disk where
  wellFormed := htracked.wellFormed
  files table htable file hending := by
    simpa only [Begun, booked_nil] using htracked.files table htable file hending
  reached hne := htracked.reached (by simpa using hne)
  once hsearched := by simpa using htracked.once hsearched

/-- Nothing is changed while the files for migrations are left alone. -/
theorem Tracked.of_spares (htracked : Tracked layout tables searched ledger stumps disk)
    (hspares : ∀ name, Spares layout name disk after) :
    Tracked layout tables searched ledger stumps after where
  wellFormed := (hspares "").wellFormed
  files := htracked.files.of_spares hspares
  reached hne := (htracked.reached hne).imp_right (hspares "").leads
  once := htracked.once

/-- What was begun by a run or before it. -/
theorem exists_begun_iff {table : Table} :
    (∃ number, Begun ledger stumps number table) ↔
      table ∈ ledger.flatten ++ stumps.map (·.2) := by
  simp only [Begun, exists_or, List.mem_append]
  refine or_congr ?_ (by simp)
  rw [List.mem_flatten]
  constructor
  · rintro ⟨number, written, hwritten, hnumber⟩
    exact ⟨written, hwritten, List.mem_of_getElem? hnumber⟩
  · rintro ⟨written, hwritten, hmem⟩
    obtain ⟨number, hnumber⟩ := List.mem_iff_getElem?.mp hmem
    exact ⟨number, written, hwritten, hnumber⟩

/-- The directory of migrations may be listed once it is there. -/
def MayList (layout : Layout) (disk : Disk) : Prop :=
  layout.migrationsPath ≠ "" ∧
    disk.refuses .list (disk.placeOf layout.migrationsPath) = false

/-- It may still be listed under the same setting. -/
theorem MayList.congr (hmay : MayList layout disk)
    (hsetting : after.setting = disk.setting) : MayList layout after :=
  hmay.imp_right (Disk.refuses_congr hsetting .list layout.migrationsPath).trans

/-- Where the directory can be searched, something is found for a migration that was begun. -/
theorem Tracked.not_mem_begun (htracked : Tracked layout tables searched ledger stumps disk)
    (hmay : MayList layout disk) {table : Table} (htable : table ∈ tables)
    (hnone : existingNames disk layout.migrationsPath (migrationName table.name) = []) :
    table ∉ ledger.flatten ++ stumps.map (·.2) := by
  intro hmem
  obtain ⟨number, hbegun⟩ := exists_begun_iff.mpr hmem
  have hending := hasEnding_migrationFileName layout number (migrationName table.name)
  have hfile := (htracked.files table htable _ hending).mpr ⟨number, hbegun, rfl⟩
  obtain ⟨content, hcontent⟩ := Option.isSome_iff_exists.mp hfile
  obtain ⟨hnul, hleads⟩ := htracked.reached (List.ne_nil_of_mem hmem)
  have hnames : ∃ names, disk.list layout.migrationsPath = .ok names :=
    Disk.exists_list_iff.mpr ⟨hmay.1, hnul, hleads, hmay.2⟩
  have hfound : layout.migrationFileName number (migrationName table.name) ∈
      existingNames disk layout.migrationsPath (migrationName table.name) := by
    refine mem_existingNames_iff.mpr ⟨hnames, hending, ?_⟩
    rw [Disk.fileAt?_eq_some_iff.mp hcontent]
    rfl
  rw [hnone] at hfound
  cases hfound

/-- One more migration is begun, which was not begun before if the directory can be searched. -/
theorem Tracked.of_wrote (htracked : Tracked layout tables searched ledger stumps disk)
    (hsearch : searched → MayList layout disk) (hunrelated : tables.Pairwise Unrelated)
    {table : Table} (htable : table ∈ tables)
    (hnone : existingNames disk layout.migrationsPath (migrationName table.name) = [])
    {number : Nat} {content : Content}
    (hwrote : disk.Wrote layout.migrationsPath
      (layout.migrationFileName number (migrationName table.name)) content after)
    {longer : List (List Table)} {more : List (Nat × Table)}
    (hbegun : ∀ other found, Begun longer more other found ↔
      Begun ledger stumps other found ∨ other = number ∧ found = table)
    (hadded : (longer.flatten ++ more.map (·.2)).Perm
      (table :: (ledger.flatten ++ stumps.map (·.2)))) :
    Tracked layout tables searched longer more after where
  wellFormed := hwrote.wellFormed
  files := htracked.files.of_wrote hunrelated htable hwrote hbegun
  reached _ := ⟨hwrote.no_nul, hwrote.led⟩
  once hsearched := hadded.nodup_iff.mpr (List.nodup_cons.mpr
    ⟨htracked.not_mem_begun (hsearch hsearched) htable hnone, htracked.once hsearched⟩)

/-- One more migration is written, and booked under the next number. -/
theorem Tracked.of_whole
    (htracked : Tracked layout tables searched (ledger ++ [written]) stumps disk)
    (hsearch : searched → MayList layout disk) (hunrelated : tables.Pairwise Unrelated)
    {table : Table} (htable : table ∈ tables)
    (hnone : existingNames disk layout.migrationsPath (migrationName table.name) = [])
    {content : Content}
    (hwrote : disk.Wrote layout.migrationsPath
      (layout.migrationFileName written.length (migrationName table.name)) content after) :
    Tracked layout tables searched (ledger ++ [written ++ [table]]) stumps after := by
  refine htracked.of_wrote hsearch hunrelated htable hnone hwrote (fun other found => ?_) ?_
  · rw [Begun, Begun, booked_concat, or_right_comm]
  · have hflatten : (ledger ++ [written ++ [table]]).flatten =
        (ledger ++ [written]).flatten ++ [table] := by simp
    rw [hflatten, List.append_assoc]
    exact List.perm_middle

/-- One more migration is left in part. -/
theorem Tracked.of_part (htracked : Tracked layout tables searched ledger stumps disk)
    (hsearch : searched → MayList layout disk) (hunrelated : tables.Pairwise Unrelated)
    {table : Table} (htable : table ∈ tables)
    (hnone : existingNames disk layout.migrationsPath (migrationName table.name) = [])
    {number : Nat} {content : Content}
    (hwrote : disk.Wrote layout.migrationsPath
      (layout.migrationFileName number (migrationName table.name)) content after) :
    Tracked layout tables searched ledger (stumps ++ [(number, table)]) after := by
  refine htracked.of_wrote hsearch hunrelated htable hnone hwrote (fun other found => ?_) ?_
  · simp only [Begun, List.mem_append, List.mem_singleton, Prod.mk.injEq, or_assoc]
  · rw [List.map_append, ← List.append_assoc]
    exact List.perm_append_singleton table _

/-- Nothing is left to do for the migration of a table: it was begun, or a directory has a name like
that of its file. -/
def Settled (layout : Layout) (begun : Nat → Table → Prop) (disk : Disk) (table : Table) : Prop :=
  (∃ number, begun number table) ∨
    ∃ file, hasEnding (migrationEnding (migrationName table.name)) file = true ∧
      disk.node? (disk.placeOf layout.migrationsPath ++ [file]) = some .directory

/-- What is settled stays settled. -/
theorem Settled.mono {table : Table} (hsettled : Settled layout begun disk table)
    (hlater : ∀ number, begun number table → later number table)
    (hkeeps : disk.Keeps after) : Settled layout later after table := by
  rcases hsettled with ⟨number, hbegun⟩ | ⟨file, hending, hdirectory⟩
  · exact .inl ⟨number, hlater number hbegun⟩
  · right
    refine ⟨file, hending, ?_⟩
    rw [hkeeps.placeOf]
    exact hkeeps.directories _ hdirectory

/-- A table for whose migration something is found is settled. -/
theorem Files.settled_of_found (hfiles : Files layout tables begun disk)
    {table : Table} (htable : table ∈ tables)
    (hfound : existingNames disk layout.migrationsPath (migrationName table.name) ≠ []) :
    Settled layout begun disk table := by
  obtain ⟨file, hfile⟩ := List.exists_mem_of_ne_nil _ hfound
  obtain ⟨-, hending, hsome⟩ := mem_existingNames_iff.mp hfile
  obtain ⟨node, hnode⟩ := Option.isSome_iff_exists.mp hsome
  cases node with
  | directory => exact .inr ⟨file, hending, hnode⟩
  | file content =>
      have hthere : (disk.fileAt? (disk.placeOf layout.migrationsPath ++ [file])).isSome := by
        rw [Disk.fileAt?_eq_some_iff.mpr hnode]
        rfl
      obtain ⟨number, hbegun, -⟩ := (hfiles table htable file hending).mp hthere
      exact .inl ⟨number, hbegun⟩

/-- What was begun stays begun when the last run of a ledger goes on and more is left in part. -/
theorem Begun.extend {number : Nat} {table : Table} {more : List Table}
    {others : List (Nat × Table)} (hbegun : Begun (ledger ++ [written]) stumps number table) :
    Begun (ledger ++ [written ++ more]) (stumps ++ others) number table :=
  hbegun.imp .extend (List.mem_append_left others)

/-- What is known of a project stays known along the attempts of a run, and all directories are
kept. -/
theorem Trail.tracked {attempts : List Attempt} {sequence : Nat}
    (htracked : Tracked layout tables searched ledger stumps start)
    (hsearch : searched → MayList layout start) (hforce : layout.force = false)
    (hstamp : Layout.isDateStamp layout.stamp = true) (hunrelated : tables.Pairwise Unrelated)
    (htrail : Trail layout source schema start attempts sequence disk)
    (htables : ∀ attempt ∈ attempts, attempt.table ∈ tables) :
    start.Keeps disk ∧
      Tracked layout tables searched (ledger ++ [migrated layout source schema attempts])
        (stumps ++ torn layout source schema attempts) disk := by
  induction htrail with
  | start =>
      rw [show torn layout source schema [] = [] from rfl, List.append_nil]
      exact ⟨.refl start, htracked.begin⟩
  | extend attempt htrail ih =>
      obtain ⟨hbefore, hlast⟩ := List.forall_mem_append.mp htables
      obtain ⟨hkept, hso⟩ := ih hbefore
      have htable := hlast attempt List.mem_cons_self
      have hmay (hsearched : searched) : MayList layout attempt.disk :=
        (hsearch hsearched).congr hkept.setting
      refine ⟨hkept.trans (Attempt.keeps hso.wellFormed hforce hstamp), ?_⟩
      rw [migrated_concat, torn_concat]
      cases Attempt.leaves source schema hso.wellFormed hforce hstamp with
      | nothing hwrote htore hspares =>
          rw [hwrote, htore, if_neg Bool.false_ne_true, if_neg Bool.false_ne_true,
            List.append_nil, List.append_nil]
          exact hso.of_spares hspares
      | whole hwrote hbegins =>
          obtain ⟨content, hadds⟩ := hbegins.wrote
          rw [hwrote, Attempt.tore_of_wrote hwrote, if_pos rfl, if_neg Bool.false_ne_true,
            List.append_nil]
          rw [htrail.sequence_eq_length] at hadds
          exact hso.of_whole hmay hunrelated htable hbegins.unfound hadds
      | part hwrote htore hbegins =>
          obtain ⟨content, hadds⟩ := hbegins.wrote
          rw [hwrote, htore, if_pos rfl, if_neg Bool.false_ne_true, List.append_nil,
            ← List.append_assoc]
          exact hso.of_part hmay hunrelated htable hbegins.unfound hadds

/-- Along the attempts of a run, the tables whose migrations did not fail are settled. -/
theorem Trail.settled {attempts : List Attempt} {sequence : Nat}
    (htracked : Tracked layout tables searched ledger stumps start)
    (hsearch : searched → MayList layout start) (hforce : layout.force = false)
    (hstamp : Layout.isDateStamp layout.stamp = true) (hunrelated : tables.Pairwise Unrelated)
    (htrail : Trail layout source schema start attempts sequence disk)
    (htables : ∀ attempt ∈ attempts, attempt.table ∈ tables) :
    ∀ attempt ∈ attempts, attempt.kind = .migration →
      attempt.outcome layout source schema ≠ .failed →
        Settled layout (Begun (ledger ++ [migrated layout source schema attempts])
          (stumps ++ torn layout source schema attempts)) disk attempt.table := by
  induction htrail with
  | start => nofun
  | @extend before last htrail ih =>
      obtain ⟨hbefore, hlast⟩ := List.forall_mem_append.mp htables
      obtain ⟨-, hso⟩ := htrail.tracked htracked hsearch hforce hstamp hunrelated hbefore
      have hkeeps : last.disk.Keeps (last.result layout source schema).1.disk :=
        Attempt.keeps hso.wellFormed hforce hstamp
      intro attempt hattempt hkind hnot
      rw [migrated_concat, torn_concat, ← List.append_assoc]
      rcases List.mem_append.mp hattempt with hearlier | hthis
      · exact (ih hbefore attempt hearlier hkind hnot).mono (fun _ => .extend) hkeeps
      · obtain rfl := List.mem_singleton.mp hthis
        cases houtcome : attempt.outcome layout source schema with
        | failed => exact absurd houtcome hnot
        | skipped =>
            have hfound := Attempt.found_of_skipped hso.wellFormed hkind houtcome
            exact (hso.files.settled_of_found (hlast attempt List.mem_cons_self) hfound).mono
              (fun _ => .extend) hkeeps
        | written =>
            rw [if_pos (by rw [Attempt.wrote, hkind, houtcome]; rfl)]
            exact .inl ⟨_, .inl (booked_concat.mpr (.inr ⟨rfl, rfl⟩))⟩

/-- What one run is given: the stubs, the schema and the failures that it meets. -/
structure Session where
  source : Stub.Source
  schema : Schema
  refuses : Disk.Access → Disk.Location → Bool := fun _ _ => false
  breaksOff : Disk.Location → List UInt8 → Option Nat := fun _ _ => none

/-- The disk as a run meets it. -/
def Session.meet (session : Session) (disk : Disk) : Disk :=
  { disk with refuses := session.refuses, breaksOff := session.breaksOff }

/-- A project after some runs: the disk, the tables whose migrations each run wrote, those whose
migrations were left in part with their numbers, and those whose migrations failed in some run. -/
structure History where
  disk : Disk
  ledger : List (List Table) := []
  torn : List (Nat × Table) := []
  unmigrated : List Table := []

namespace History

/-- One more run. -/
def next (layout : Layout) (history : History) (session : Session) : History :=
  let disk := session.meet history.disk
  let tried := attempts layout session.source session.schema disk
  { disk := (run layout session.source session.schema disk).disk
    ledger := history.ledger ++ [migrated layout session.source session.schema tried]
    torn := history.torn ++ Generation.torn layout session.source session.schema tried
    unmigrated := history.unmigrated ++
      Generation.unmigrated layout session.source session.schema tried }

/-- Runs one after another. -/
def through (layout : Layout) (history : History) (sessions : List Session) : History :=
  sessions.foldl (next layout) history

/-- What is known of a project after some sessions: the directory of migrations has its place, each
run followed the order of the tables, and tables are settled unless their migrations failed, as
those did that were left in part. -/
structure Orderly (layout : Layout) (tables : List Table) (searched : Prop) (place : Disk.Location)
    (done : List Session) (history : History) : Prop where
  tracked : Tracked layout tables searched history.ledger history.torn history.disk
  placed : history.disk.placeOf layout.migrationsPath = place
  ordered : ∀ written ∈ history.ledger, written.Sublist tables
  failed : ∀ entry ∈ history.torn, entry.2 ∈ history.unmigrated
  settled : ∀ session ∈ done, ∀ table ∈ session.schema.tables,
    Settled layout (Begun history.ledger history.torn) history.disk table ∨
      table ∈ history.unmigrated

variable {history : History} {session : Session} {done : List Session} {place : Disk.Location}

/-- What a run meets is known as before. -/
theorem Orderly.meet (horderly : Orderly layout tables searched place done history)
    (session : Session) :
    Tracked layout tables searched history.ledger history.torn (session.meet history.disk) where
  wellFormed := horderly.tracked.wellFormed
  files := horderly.tracked.files
  reached := horderly.tracked.reached
  once := horderly.tracked.once

/-- One more run keeps it. -/
theorem Orderly.next (horderly : Orderly layout tables searched place done history)
    (hforce : layout.force = false) (hstamp : Layout.isDateStamp layout.stamp = true)
    (hunrelated : tables.Pairwise Unrelated) (hinitial : session.schema.tables <+: tables)
    (hsearch : searched → layout.migrationsPath ≠ "" ∧ session.refuses .list place = false) :
    Orderly layout tables searched place (done ++ [session]) (history.next layout session) := by
  have hrecorded : Recorded layout session.source session.schema (session.meet history.disk)
      (attempts layout session.source session.schema (session.meet history.disk))
      (Progress.through layout session.source session.schema { disk := session.meet history.disk }
        session.schema.tables) := recorded_attempts _
  have htables : ∀ attempt ∈ attempts layout session.source session.schema
      (session.meet history.disk), attempt.table ∈ tables := fun attempt hattempt =>
    hinitial.subset (table_mem_of_mem_attemptsFrom hattempt)
  have hmay (hsearched : searched) : MayList layout (session.meet history.disk) := by
    refine (hsearch hsearched).imp_right fun hallowed => ?_
    rwa [← horderly.placed] at hallowed
  obtain ⟨hkeeps, htracked⟩ := hrecorded.trail.tracked (horderly.meet session) hmay hforce
    hstamp hunrelated htables
  constructor
  case tracked => exact htracked
  case placed => exact (hkeeps.placeOf layout.migrationsPath).trans horderly.placed
  case ordered =>
    intro written hwritten
    rcases List.mem_append.mp hwritten with hbefore | hlast
    · exact horderly.ordered written hbefore
    · obtain rfl := List.mem_singleton.mp hlast
      exact (migrated_sublist _ _).trans hinitial.sublist
  case failed =>
    intro entry hentry
    rcases List.mem_append.mp hentry with hbefore | hlast
    · exact List.mem_append_left _ (horderly.failed entry hbefore)
    · exact List.mem_append_right _ (mem_unmigrated_of_torn hlast)
  case settled =>
    intro other hother table htable
    rcases List.mem_append.mp hother with hbefore | hlast
    · refine (horderly.settled other hbefore table htable).imp (fun hearlier => ?_)
        (List.mem_append_left _)
      have hmet : Settled layout (Begun history.ledger history.torn) (session.meet history.disk)
          table := hearlier
      refine hmet.mono (fun number hbegun => ?_) hkeeps
      refine hbegun.imp (fun hbooked => ?_) (List.mem_append_left _)
      obtain ⟨written, hwritten, hnumber⟩ := hbooked
      exact ⟨written, List.mem_append_left _ hwritten, hnumber⟩
    · obtain rfl := List.mem_singleton.mp hlast
      obtain ⟨attempt, hattempt, hkind, rfl⟩ := exists_migration_attempt htable
      by_cases hfailed : attempt.outcome layout other.source other.schema = .failed
      · right
        apply List.mem_append_right
        exact List.mem_map_of_mem (List.mem_filter.mpr ⟨hattempt, by simp [hkind, hfailed]⟩)
      · exact .inl (hrecorded.trail.settled (horderly.meet other) hmay hforce hstamp
          hunrelated htables attempt hattempt hkind hfailed)

/-- All runs of a history keep it. -/
theorem Orderly.through {sessions : List Session}
    (horderly : Orderly layout tables searched place done history) (hforce : layout.force = false)
    (hstamp : Layout.isDateStamp layout.stamp = true) (hunrelated : tables.Pairwise Unrelated)
    (hgrowing : ∀ session ∈ sessions, session.schema.tables <+: tables)
    (hsearch : searched → layout.migrationsPath ≠ "" ∧
      ∀ session ∈ sessions, session.refuses .list place = false) :
    Orderly layout tables searched place (done ++ sessions) (history.through layout sessions) := by
  induction sessions generalizing history done with
  | nil =>
      rw [List.append_nil]
      exact horderly
  | cons session rest ih =>
      obtain ⟨hfirst, hrest⟩ := List.forall_mem_cons.mp hgrowing
      rw [List.append_cons]
      exact ih
        (horderly.next hforce hstamp hunrelated hfirst fun h =>
          (hsearch h).imp_right fun hlist => hlist session List.mem_cons_self)
        hrest
        fun h => (hsearch h).imp_right fun hlist other hother =>
          hlist other (List.mem_cons_of_mem _ hother)

/-- Where there are no migrations yet, there is nothing to know. -/
theorem orderly_start (hwell : disk.WellFormed)
    (hempty : ∀ file, disk.fileAt? (disk.placeOf layout.migrationsPath ++ [file]) = none) :
    Orderly layout tables searched (disk.placeOf layout.migrationsPath) [] { disk } where
  tracked :=
    { wellFormed := hwell
      files := fun table _ file _ => by simp [hempty, Begun, Booked]
      reached := fun hne => absurd rfl hne
      once := fun _ => .nil }
  placed := rfl
  ordered := nofun
  failed := nofun
  settled := nofun

end History

/-- A project is generated again and again without force, each time from an initial part of the
same tables, none of which are related, and each run meets failures of its own. Then the files for
their migrations are those that some run wrote or left in part, each under the count of the
migrations that the run wrote before it. Every run wrote them in the order of the tables, and of two
files the one with the smaller number comes first, so those of one run come in the order of the
tables. All tables that were asked for have theirs, unless it failed, as it did where it is left in
part, or a directory stands in for it; and if no run is kept from listing the directory of
migrations, each migration was written or left in part once at most. -/
theorem history_orders_each_run (layout : Layout) (tables : List Table) (sessions : List Session)
    (disk : Disk) (hwell : disk.WellFormed) (hforce : layout.force = false)
    (hstamp : Layout.isDateStamp layout.stamp = true)
    (hempty : ∀ file, disk.fileAt? (disk.placeOf layout.migrationsPath ++ [file]) = none)
    (hgrowing : ∀ session ∈ sessions, session.schema.tables <+: tables)
    (hunrelated : tables.Pairwise Unrelated) (hcount : tables.length ≤ 10 ^ 6) :
    let last := History.through layout { disk } sessions
    let file (number : Nat) (table : Table) :=
      layout.migrationFileName number (migrationName table.name)
    (∀ table ∈ tables, ∀ name, hasEnding (migrationEnding (migrationName table.name)) name = true →
        ((last.disk.fileAt? (last.disk.placeOf layout.migrationsPath ++ [name])).isSome ↔
          ∃ number, (Booked last.ledger number table ∨ (number, table) ∈ last.torn) ∧
            name = file number table)) ∧
      (∀ written ∈ last.ledger, written.Sublist tables) ∧
      (∀ number table other later, Booked last.ledger number table →
        Booked last.ledger other later → number < other →
          Text.Utf8.encode (file number table) < Text.Utf8.encode (file other later)) ∧
      (∀ session ∈ sessions, ∀ table ∈ session.schema.tables,
        Settled layout (Booked last.ledger) last.disk table ∨ table ∈ last.unmigrated) ∧
      (∀ entry ∈ last.torn, entry.2 ∈ last.unmigrated) ∧
      (layout.migrationsPath ≠ "" →
        (∀ session ∈ sessions,
          session.refuses .list (disk.placeOf layout.migrationsPath) = false) →
        (last.ledger.flatten ++ last.torn.map (·.2)).Nodup) := by
  intro last file
  have horderly : History.Orderly layout tables _ _ ([] ++ sessions) last :=
    (History.orderly_start hwell hempty).through hforce hstamp hunrelated hgrowing id
  refine ⟨horderly.tracked.files, horderly.ordered, ?_, ?_, horderly.failed,
    fun hpath hlist => horderly.tracked.once ⟨hpath, hlist⟩⟩
  · rintro number table other later - ⟨written, hwritten, hother⟩ hlt
    have hlength : written.length ≤ tables.length := (horderly.ordered written hwritten).length_le
    obtain ⟨hfits, -⟩ := List.getElem?_eq_some_iff.mp hother
    exact migrationFileName_lt layout hlt (by omega) _ _
  · intro session hsession table htable
    rcases horderly.settled session hsession table htable with
      (⟨number, hbooked | htorn⟩ | hdirectory) | hfailed
    · exact .inl (.inl ⟨number, hbooked⟩)
    · exact .inr (horderly.failed _ htorn)
    · exact .inl (.inr hdirectory)
    · exact .inr hfailed

/-- A schema that grows by one table after a first run. -/
def growingSessions : List Session :=
  [{ source := fun _ kind => .ok (some kind.label), schema := { tables := [bareTable "news"] } },
    { source := fun _ kind => .ok (some kind.label),
      schema := { tables := [bareTable "news", bareTable "fish"] } }]

/-- The same runs, the first of which cannot finish writing into the directory of migrations. -/
def crampedSessions : List Session :=
  growingSessions.modifyHead fun session =>
    { session with
      breaksOff := fun place _ => if place.dropLast = ["n"] then some 3 else none }

/-- Where its files are. -/
def growingLayout : Layout where
  base := "/"
  modelsDirectory := "m"
  migrationsDirectory := "n"
  stamp := "2024_01_01"

/-- The migration of the first table is left in part by the first run, and not written by the
second, which follows the tables. -/
theorem history_of_growing_once :
    let last := History.through growingLayout { disk := {} } crampedSessions
    last.torn.map (fun entry => (entry.1, entry.2.name)) = [(0, "news")] ∧
      (∀ written ∈ last.ledger, written.Sublist [bareTable "news", bareTable "fish"]) ∧
      (last.ledger.flatten ++ last.torn.map (·.2)).Nodup := by
  intro last
  have hgrowing : ∀ session ∈ crampedSessions,
      session.schema.tables <+: [bareTable "news", bareTable "fish"] := by
    simp only [crampedSessions, growingSessions, List.modifyHead_cons, List.forall_mem_cons]
    exact ⟨⟨[bareTable "fish"], rfl⟩, List.prefix_refl _, nofun⟩
  obtain ⟨-, hordered, -, -, -, honce⟩ := history_orders_each_run growingLayout
    [bareTable "news", bareTable "fish"] crampedSessions {}
    (Disk.wellFormed_of_entries (by decide)) rfl (by decide)
    (fun file => by simp [Disk.fileAt?, Disk.node?]) hgrowing (by decide +kernel) (by decide)
  exact ⟨by decide +kernel, hordered,
    honce (by decide) (by simp [crampedSessions, growingSessions])⟩

/-- The second run counts from zero again, and its file comes before that of the first table. -/
theorem history_of_growing_unordered :
    let last := History.through growingLayout { disk := {} } growingSessions
    let news := "2024_01_01_000000_create_news_table.php"
    let fish := "2024_01_01_000000_create_fish_table.php"
    (last.disk.fileAt? ["n", news]).isSome ∧ (last.disk.fileAt? ["n", fish]).isSome ∧
      last.disk.entries.countP (fun entry => entry.1.dropLast = ["n"]) = 2 ∧
      Text.Utf8.encode fish < Text.Utf8.encode news := by
  decide +kernel

end SchemaScaffold.Generation
