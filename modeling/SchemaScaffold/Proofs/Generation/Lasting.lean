import SchemaScaffold.Proofs.Generation.Attempt

/-!
# Files that last to the end of a run

What a run has written is still there at its end, with the content that was rendered for its table,
unless a later table took it away. Only a run that is asked to write over files does that: the
model of a later table may have the same class name, and the migration of a later table takes the
place of the files that are found for it. All other files are kept, and no two of them have the
same place. Nothing is assumed of the stamp, which may lead out of the directory of migrations.
-/

namespace SchemaScaffold.Generation

open Convention (modelName migrationName)
open Disk (IsName Location joinPath)
open Layout (exists_migrationFile_eq exists_migrationFileName_eq hasEnding_migrationFileName
  isName_modelFile isName_named sequence_eq_of_migrationFileName_eq)
open Schema (Table)
open Text (hasEnding hasEnding_iff)

variable {layout : Layout} {source : Stub.Source} {schema : Schema} {start disk after : Disk}

namespace Attempt

variable {attempt earlier later : Attempt} {place : Location}

/-- The path of the file. -/
def path (layout : Layout) (attempt : Attempt) : String :=
  match attempt.kind with
  | .model => layout.modelFile (modelName attempt.table.name)
  | .migration => layout.migrationFile attempt.sequence (migrationName attempt.table.name)

/-- The name of the file in its directory. -/
def file (layout : Layout) (attempt : Attempt) : String :=
  match attempt.kind with
  | .model => modelName attempt.table.name ++ ".php"
  | .migration =>
    layout.named.migrationFileName attempt.sequence (migrationName attempt.table.name)

/-- What is rendered for the file, from the stubs as they are by then. -/
def contents (source : Stub.Source) (schema : Schema) (attempt : Attempt) :
    Except RenderError String :=
  match attempt.kind with
  | .model => (Model.render (source attempt.disk) schema attempt.table).map (·.contents)
  | .migration => (Migration.render (source attempt.disk) schema attempt.table).map (·.contents)

/-- The file is on a disk, and holds what was rendered for it. -/
def Stands (layout : Layout) (source : Stub.Source) (schema : Schema) (disk : Disk)
    (attempt : Attempt) : Prop :=
  ∃ contents, attempt.contents source schema = .ok contents ∧
    disk.find? (attempt.path layout) = some (.file (.text contents))

/-- The path of a file is that of a directory and its name in it. -/
theorem exists_path_eq (layout : Layout) (attempt : Attempt) :
    ∃ directory, attempt.path layout = joinPath directory (attempt.file layout) := by
  unfold path file
  cases attempt.kind with
  | model => exact ⟨layout.modelsPath, rfl⟩
  | migration =>
      obtain ⟨directory, hpath⟩ := exists_migrationFile_eq layout
      exact ⟨directory, hpath _ _⟩

/-- The file has a name, unless there is a NUL in its path. -/
theorem isName_file (hnul : '\x00' ∉ (attempt.path layout).toList) :
    IsName (attempt.file layout) := by
  unfold path at hnul
  unfold file
  cases hkind : attempt.kind with
  | model => exact isName_modelFile attempt.table.name
  | migration =>
      rw [hkind] at hnul
      exact isName_named hnul

/-- Its path leads to a place of that name. -/
theorem getLast?_of_resolve (hresolve : disk.resolve (attempt.path layout) = .ok place) :
    place.getLast? = some (attempt.file layout) := by
  have hname := isName_file (Disk.resolve_eq_ok_iff.mp hresolve).2.1
  obtain ⟨directory, hpath⟩ := exists_path_eq layout attempt
  rw [hpath] at hresolve
  obtain ⟨-, -, -, rfl⟩ := (Disk.resolve_joinPath_eq_ok_iff hname).mp hresolve
  simp

/-- A place whose file is removed, with force, to make room for a migration. -/
def Clears (layout : Layout) (attempt : Attempt) (place : Location) : Prop :=
  layout.force = true ∧ attempt.kind = .migration ∧ ∃ file, place.getLast? = some file ∧
    hasEnding (migrationEnding (migrationName attempt.table.name)) file = true

/-- What writing a file does: it stands there, and no others are touched than those of its name and
those that it replaces. A model that is not to be written over was not there before. -/
structure Placed (layout : Layout) (source : Stub.Source) (schema : Schema) (attempt : Attempt)
    (after : Disk) : Prop
    extends attempt.disk.Touches
      (fun place => place.getLast? = some (attempt.file layout) ∨ attempt.Clears layout place)
      after where
  stands : attempt.Stands layout source schema after
  free : layout.force = false → attempt.kind = .model →
    attempt.disk.pathExists (attempt.path layout) = false

/-- Writing a file by its path. -/
theorem wrote_path (hwell : disk.WellFormed) {content : Content}
    (hwrite : disk.writeThrough (attempt.path layout) content = (after, none)) :
    disk.Touches (fun place => place.getLast? = some (attempt.file layout)) after ∧
      after.find? (attempt.path layout) = some (.file content) := by
  have hname := isName_file (Disk.nul_not_mem_of_writeThrough hwrite nofun)
  obtain ⟨directory, hpath⟩ := exists_path_eq layout attempt
  rw [hpath] at hwrite ⊢
  have hwrote := Disk.wrote_of_writeThrough hwell hname hwrite
  refine ⟨hwrote.mono ?_, hwrote.find? hname⟩
  rintro place rfl
  simp

/-- Making room for a migration touches only files that it replaces. -/
theorem clears_of_removed {name : String} {removals : List Event}
    (hkind : attempt.kind = .migration) (hname : name = migrationName attempt.table.name)
    (hfree : layout.force = false → existingNames attempt.disk layout.migrationsPath name = [])
    (hremoved : Removed attempt.disk layout.migrationsPath name removals after) :
    attempt.disk.Touches (attempt.Clears layout) after := by
  refine hremoved.toTouches.mono ?_
  intro place hexisting
  have hforce := forced_of_isExistingPlace hfree hexisting
  obtain ⟨file, hfile, rfl⟩ := hexisting
  exact ⟨hforce, hkind, file, by simp, hname ▸ (mem_existingNames_iff.mp hfile).2.1⟩

/-- A model that is written is placed. -/
theorem placed_of_modelMade {step : Step} (hkind : attempt.kind = .model)
    (hmade : ModelMade layout source schema attempt.table attempt.disk step)
    (hwritten : step.outcome = .written) : attempt.Placed layout source schema step.disk := by
  have hpath : attempt.path layout = layout.modelFile (modelName attempt.table.name) := by
    rw [path, hkind]
  have hfile : attempt.file layout = modelName attempt.table.name ++ ".php" := by
    rw [file, hkind]
  cases hmade with
  | notRendered | kept | notWritten => cases hwritten
  | written hrender hfree hwrote =>
      rw [className_of_render hrender] at hfree hwrote
      constructor
      case toTouches =>
        refine hwrote.toTouches.mono ?_
        rintro place rfl
        left
        rw [hfile, List.getLast?_concat]
      case stands =>
        rw [Stands, hpath]
        refine ⟨_, ?_, hwrote.find? (isName_modelFile attempt.table.name)⟩
        rw [contents, hkind, hrender]
        rfl
      case free =>
        intro hforce _
        rw [hpath]
        exact hfree hforce

/-- A migration that is written is placed. -/
theorem placed_of_migrationTried {step : Step} {next : Nat} (hkind : attempt.kind = .migration)
    (htried : MigrationTried layout source schema attempt.table attempt.sequence attempt.disk
      (step, next))
    (hwritten : step.outcome = .written) : attempt.Placed layout source schema step.disk := by
  have hpath : attempt.path layout =
      layout.migrationFile attempt.sequence (migrationName attempt.table.name) := by
    rw [path, hkind]
  cases htried with
  | kept | notRendered | notWritten => cases hwritten
  | written hrender hfree hremoved hwrite =>
      have hname := name_of_render hrender
      have hclears := clears_of_removed hkind hname hfree hremoved
      rw [hname, ← hpath] at hwrite
      obtain ⟨htouches, hfind⟩ := wrote_path hremoved.wellFormed hwrite
      constructor
      case toTouches =>
        exact (hclears.mono fun _ => .inr).trans (htouches.mono fun _ => .inl)
      case stands =>
        refine ⟨_, ?_, hfind⟩
        rw [contents, hkind, hrender]
        rfl
      case free =>
        intro _ hmodel
        rw [hkind] at hmodel
        cases hmodel

/-- A file that is written is placed. -/
theorem placed_of_written (hwell : attempt.disk.WellFormed)
    (hwritten : attempt.outcome layout source schema = .written) :
    attempt.Placed layout source schema (attempt.result layout source schema).1.disk := by
  cases hkind : attempt.kind with
  | model => exact placed_of_modelMade hkind (modelMade hwell hkind) hwritten
  | migration => exact placed_of_migrationTried hkind (migrationTried hwell hkind) hwritten

/-- Without a fault, an attempt that writes nothing leaves the disk as it is. -/
theorem disk_of_not_written (hwell : attempt.disk.WellFormed)
    (hfine : Fine (attempt.result layout source schema).1.events)
    (hnot : attempt.outcome layout source schema ≠ .written) :
    (attempt.result layout source schema).1.disk = attempt.disk := by
  unfold outcome at hnot
  cases hkind : attempt.kind with
  | model =>
      have hmade : ModelMade layout source schema attempt.table attempt.disk
          (attempt.result layout source schema).1 := modelMade hwell hkind
      generalize (attempt.result layout source schema).1 = step at *
      cases hmade with
      | notRendered | kept => rfl
      | written => exact absurd rfl hnot
      | notWritten => exact nomatch hfine _ List.mem_cons_self
  | migration =>
      have htried : MigrationTried layout source schema attempt.table attempt.sequence attempt.disk
          (attempt.result layout source schema) := migrationTried hwell hkind
      generalize attempt.result layout source schema = result at *
      cases htried with
      | kept | notRendered => rfl
      | written => exact absurd rfl hnot
      | notWritten => exact nomatch hfine _ (List.mem_append_right _ List.mem_cons_self)

/-- Whether a later file takes the place of an earlier one: with force, a model that of a class of
the same name, and a migration every one that is found for it. -/
def displaces (layout : Layout) (later earlier : Attempt) : Bool :=
  layout.force && match later.kind, earlier.kind with
    | .model, .model => decide (modelName later.table.name = modelName earlier.table.name)
    | .migration, .migration =>
      hasEnding (migrationEnding (migrationName later.table.name))
        (layout.migrationFileName earlier.sequence (migrationName earlier.table.name))
    | _, _ => false

/-- A file that is not displaced is not removed. -/
theorem not_clears (hnot : later.displaces layout earlier = false)
    (hplace : place.getLast? = some (earlier.file layout)) : ¬later.Clears layout place := by
  rintro ⟨hforce, hkind, name, hname, hending⟩
  obtain rfl : earlier.file layout = name := Option.some.inj (hplace.symm.trans hname)
  cases hearlier : earlier.kind with
  | model =>
      rw [file, hearlier, not_hasEnding_modelFile] at hending
      cases hending
  | migration =>
      obtain ⟨lead, -, hnames⟩ := exists_migrationFileName_eq layout
      have hwhole : hasEnding (migrationEnding (migrationName later.table.name))
          (layout.migrationFileName earlier.sequence (migrationName earlier.table.name)) =
            true := by
        rw [file, hearlier] at hending
        obtain ⟨stem, hstem⟩ := hasEnding_iff.mp hending
        refine hasEnding_iff.mpr ⟨lead ++ stem, ?_⟩
        rw [hnames, String.append_assoc]
        exact congrArg (lead ++ ·) hstem
      rw [displaces, hforce, hkind, hearlier, Bool.true_and, hwhole] at hnot
      cases hnot

/-- A file that is not displaced has another name than those written after it. -/
theorem file_ne (hstands : earlier.Stands layout source schema later.disk)
    (hplaced : later.Placed layout source schema after)
    (hnumber : earlier.kind = .migration → earlier.sequence < later.sequence)
    (hnot : later.displaces layout earlier = false) : earlier.file layout ≠ later.file layout := by
  intro hsame
  unfold file at hsame
  cases hearlier : earlier.kind with
  | model =>
      cases hlater : later.kind with
      | model =>
          simp only [hearlier, hlater, String.append_left_inj] at hsame
          cases hforce : layout.force with
          | true => simp [displaces, hforce, hearlier, hlater, hsame] at hnot
          | false =>
              -- The later one would have been skipped, as there was a file on its path.
              obtain ⟨contents, -, hfind⟩ := hstands
              have hpaths : earlier.path layout = later.path layout := by
                rw [path, path, hearlier, hlater, hsame]
              have habsent := hplaced.free hforce hlater
              rw [Disk.pathExists, ← hpaths, hfind] at habsent
              cases habsent
      | migration =>
          simp only [hearlier, hlater] at hsame
          have hending := hasEnding_migrationFileName layout.named later.sequence
            (migrationName later.table.name)
          rw [← hsame, not_hasEnding_modelFile] at hending
          cases hending
  | migration =>
      cases hlater : later.kind with
      | model =>
          simp only [hearlier, hlater] at hsame
          have hending := hasEnding_migrationFileName layout.named earlier.sequence
            (migrationName earlier.table.name)
          rw [hsame, not_hasEnding_modelFile] at hending
          cases hending
      | migration =>
          simp only [hearlier, hlater] at hsame
          exact Nat.ne_of_lt (hnumber hearlier) (sequence_eq_of_migrationFileName_eq hsame)

/-- A file that is not displaced goes on standing. -/
theorem Stands.of_placed (hstands : earlier.Stands layout source schema later.disk)
    (hplaced : later.Placed layout source schema after)
    (hne : earlier.file layout ≠ later.file layout)
    (hnot : later.displaces layout earlier = false) :
    earlier.Stands layout source schema after := by
  obtain ⟨contents, hcontents, hfind⟩ := hstands
  refine ⟨contents, hcontents, hplaced.toTouches.find? (fun place hresolve => ?_) hfind⟩
  have hlast := getLast?_of_resolve hresolve
  rintro (hsame | hclears)
  · exact hne (Option.some.inj (hlast.symm.trans hsame))
  · exact not_clears hnot hlast hclears

/-- Those of some files that no later one of them displaces. -/
def lasting (layout : Layout) (written : List Attempt) : List Attempt :=
  written.foldl (fun standing later =>
    standing.filter (fun earlier => !later.displaces layout earlier) ++ [later]) []

/-- One more file displaces some of those before it, and is the last one. -/
theorem lasting_concat (written : List Attempt) (later : Attempt) :
    lasting layout (written ++ [later]) =
      (lasting layout written).filter (fun earlier => !later.displaces layout earlier) ++
        [later] := by
  rw [lasting, List.foldl_append, List.foldl_cons, List.foldl_nil, ← lasting]

/-- Files of which none displaces another one all last. -/
theorem lasting_of_pairwise {written : List Attempt}
    (hnone : written.Pairwise fun earlier later => later.displaces layout earlier = false) :
    lasting layout written = written := by
  have happend : ∀ standing : List Attempt,
      (standing ++ written).Pairwise (fun earlier later => later.displaces layout earlier = false) →
        written.foldl (fun standing later =>
          standing.filter (fun earlier => !later.displaces layout earlier) ++ [later]) standing =
            standing ++ written := by
    clear hnone
    induction written with
    | nil => exact fun standing _ => (List.append_nil standing).symm
    | cons later rest ih =>
        intro standing hnone
        have hkept :
            standing.filter (fun earlier => !later.displaces layout earlier) = standing := by
          refine List.filter_eq_self.mpr fun earlier hearlier => ?_
          rw [(List.pairwise_append.mp hnone).2.2 earlier hearlier later List.mem_cons_self]
          rfl
        rw [List.append_cons] at hnone ⊢
        rw [List.foldl_cons, hkept, ih _ hnone]
  exact happend [] hnone

/-- Without force no file displaces another one. -/
theorem displaces_of_unforced (hforce : layout.force = false) (later earlier : Attempt) :
    later.displaces layout earlier = false := by
  rw [displaces, hforce, Bool.false_and]

/-- The files of two tables do not displace one another when their classes have different names and
their migrations are not related. -/
theorem displaces_of_apart (hclass : modelName earlier.table.name ≠ modelName later.table.name)
    (hunrelated : Unrelated earlier.table later.table) :
    later.displaces layout earlier = false := by
  rw [displaces, Bool.and_eq_false_iff]
  right
  cases hlater : later.kind <;> cases hearlier : earlier.kind
  case model.model => simpa using hclass.symm
  case migration.migration =>
    exact hunrelated.not_hasEnding (hasEnding_migrationFileName layout _ _)
  all_goals rfl

end Attempt

/-- Neither the models nor the migrations of two tables come in each other's way. -/
def Apart (table other : Table) : Prop :=
  modelName table.name ≠ modelName other.name ∧ Unrelated table other

/-- The files of tables that keep apart do not displace one another. -/
theorem pairwise_attemptsFrom (progress : Progress) {tables : List Table}
    (hapart : tables.Pairwise Apart) :
    (attemptsFrom layout source schema progress tables).Pairwise
      fun earlier later => later.displaces layout earlier = false := by
  induction tables generalizing progress with
  | nil => exact .nil
  | cons table rest ih =>
      obtain ⟨hfirst, hrest⟩ := List.pairwise_cons.mp hapart
      have hothers {earlier : Attempt} (hearlier : earlier.table = table) (later : Attempt)
          (hlater : later ∈ attemptsFrom layout source schema
            (progress.advance layout source schema table) rest) :
          later.displaces layout earlier = false := by
        obtain ⟨hclass, hunrelated⟩ := hfirst later.table (table_mem_of_mem_attemptsFrom hlater)
        rw [← hearlier] at hclass hunrelated
        exact Attempt.displaces_of_apart hclass hunrelated
      refine .cons ?_ (.cons (hothers rfl) (ih _ hrest))
      intro later hlater
      rcases List.mem_cons.mp hlater with rfl | hlater
      · -- The migration of a table does not displace its model.
        exact Bool.and_false _
      · exact hothers rfl later hlater

/-- The attempts that wrote their files. -/
def written (layout : Layout) (source : Stub.Source) (schema : Schema) (attempts : List Attempt) :
    List Attempt :=
  attempts.filter (·.outcome layout source schema = .written)

/-- The files that are counted as written. -/
theorem length_written (attempts : List Attempt) :
    (written layout source schema attempts).length =
      (reportOf layout source schema attempts).models +
        (reportOf layout source schema attempts).migrations := by
  simp only [written, reportOf, ← List.countP_eq_length_filter]
  induction attempts with
  | nil => rfl
  | cons attempt rest ih =>
      simp only [List.countP_cons, ih, Attempt.wrote]
      cases attempt.kind <;> cases attempt.outcome layout source schema <;> simp <;> omega

/-- What holds of the files that were not displaced so far, on the disk and under the number that
the attempts have led to. -/
structure Lasted (layout : Layout) (source : Stub.Source) (schema : Schema)
    (standing : List Attempt) (sequence : Nat) (disk : Disk) : Prop where
  wellFormed : disk.WellFormed
  numbered : ∀ attempt ∈ standing, attempt.kind = .migration → attempt.sequence < sequence
  stands : ∀ attempt ∈ standing, attempt.Stands layout source schema disk
  distinct : standing.Pairwise fun earlier later => earlier.file layout ≠ later.file layout

/-- An attempt that fails or has nothing to do takes no file away. -/
theorem Lasted.of_not_written {standing : List Attempt} {attempt : Attempt}
    (hlasted : Lasted layout source schema standing attempt.sequence attempt.disk)
    (hfine : Fine (attempt.result layout source schema).1.events)
    (hnot : attempt.outcome layout source schema ≠ .written) :
    Lasted layout source schema standing (attempt.result layout source schema).2
      (attempt.result layout source schema).1.disk := by
  have hnext : (attempt.result layout source schema).2 = attempt.sequence := by
    rw [Trail.next_eq, Attempt.wrote, decide_eq_false hnot, Bool.and_false]
    rfl
  rw [Attempt.disk_of_not_written hlasted.wellFormed hfine hnot, hnext]
  exact hlasted

/-- An attempt that writes a file leaves all others that it does not displace. -/
theorem Lasted.of_written {standing : List Attempt} {attempt : Attempt}
    (hlasted : Lasted layout source schema standing attempt.sequence attempt.disk)
    (hwrote : attempt.outcome layout source schema = .written) :
    Lasted layout source schema
      (standing.filter (fun earlier => !attempt.displaces layout earlier) ++ [attempt])
      (attempt.result layout source schema).2 (attempt.result layout source schema).1.disk := by
  have hplaced := Attempt.placed_of_written hlasted.wellFormed hwrote
  have hne {earlier : Attempt} (hmem : earlier ∈ standing)
      (hnot : attempt.displaces layout earlier = false) :
      earlier.file layout ≠ attempt.file layout :=
    Attempt.file_ne (hlasted.stands earlier hmem) hplaced (hlasted.numbered earlier hmem) hnot
  have hcases {earlier : Attempt}
      (hearlier : earlier ∈ standing.filter (fun earlier => !attempt.displaces layout earlier) ++
        [attempt]) :
      earlier ∈ standing ∧ attempt.displaces layout earlier = false ∨ earlier = attempt := by
    simpa using hearlier
  constructor
  case wellFormed => exact hplaced.wellFormed
  case numbered =>
    rw [Trail.next_eq]
    intro earlier hearlier hkind
    rcases hcases hearlier with ⟨hmem, -⟩ | rfl
    · exact Nat.lt_add_right _ (hlasted.numbered earlier hmem hkind)
    · rw [Attempt.wrote, hkind, hwrote]
      exact Nat.lt_succ_self _
  case stands =>
    intro earlier hearlier
    rcases hcases hearlier with ⟨hmem, hnot⟩ | rfl
    · exact (hlasted.stands earlier hmem).of_placed hplaced (hne hmem hnot) hnot
    · exact hplaced.stands
  case distinct =>
    refine List.pairwise_append.mpr ⟨hlasted.distinct.filter _, List.pairwise_singleton _ _, ?_⟩
    intro earlier hearlier later hlater
    obtain rfl := List.mem_singleton.mp hlater
    rw [List.mem_filter, Bool.not_eq_true'] at hearlier
    exact hne hearlier.1 hearlier.2

/-- Along attempts without a fault, the files that are not displaced last. -/
theorem Trail.lasted {attempts : List Attempt} {sequence : Nat} (hwell : start.WellFormed)
    (htrail : Trail layout source schema start attempts sequence disk)
    (hfine : ∀ attempt ∈ attempts, Fine (attempt.result layout source schema).1.events) :
    Lasted layout source schema (Attempt.lasting layout (written layout source schema attempts))
      sequence disk := by
  induction htrail with
  | start => exact { wellFormed := hwell, numbered := nofun, stands := nofun, distinct := .nil }
  | extend attempt _ ih =>
      obtain ⟨hbefore, hlast⟩ := List.forall_mem_append.mp hfine
      by_cases hwrote : attempt.outcome layout source schema = .written
      · rw [written, List.filter_append, List.filter_cons_of_pos (by simpa using hwrote),
          List.filter_nil, Attempt.lasting_concat]
        exact (ih hbefore).of_written hwrote
      · rw [written, List.filter_append, List.filter_cons_of_neg (by simpa using hwrote),
          List.filter_nil, List.append_nil]
        exact (ih hbefore).of_not_written (hlast attempt List.mem_cons_self) hwrote

/-- Files that stand under different names are at different places. -/
theorem Lasted.nodup_places {standing : List Attempt} {sequence : Nat}
    (hlasted : Lasted layout source schema standing sequence disk) :
    (standing.map fun attempt => disk.resolve (attempt.path layout)).Nodup := by
  refine List.pairwise_map.mpr (hlasted.distinct.imp_of_mem ?_)
  intro earlier later hearlier hlater hne hsame
  obtain ⟨_, -, hfind⟩ := hlasted.stands earlier hearlier
  obtain ⟨place, hresolve, -⟩ := Disk.find?_eq_some_iff.mp hfind
  have hfirst := Attempt.getLast?_of_resolve hresolve
  have hsecond := Attempt.getLast?_of_resolve (hsame ▸ hresolve)
  exact hne (Option.some.inj (hfirst.symm.trans hsecond))

/-- After a run without a fault, there are as many files written as the report counts. Those that no
later one displaced are there with what was rendered for them, and no two of them are at the same
place. These are all of them if the run is not forced, or if the tables keep apart. -/
theorem run_written_lasts (layout : Layout) (source : Stub.Source) (schema : Schema) (disk : Disk)
    (hwell : disk.WellFormed) (hfine : Fine (run layout source schema disk).events) :
    let last := run layout source schema disk
    let all := written layout source schema (attempts layout source schema disk)
    let lasting := Attempt.lasting layout all
    all.length = last.report.models + last.report.migrations ∧
      (∀ attempt ∈ lasting, attempt.Stands layout source schema last.disk) ∧
      (lasting.map fun attempt => last.disk.resolve (attempt.path layout)).Nodup ∧
      (layout.force = false ∨ schema.tables.Pairwise Apart → lasting = all) := by
  intro last all lasting
  have hrecorded : Recorded layout source schema disk (attempts layout source schema disk)
      (Progress.through layout source schema { disk } schema.tables) := recorded_attempts disk
  have hattempts : ∀ attempt ∈ attempts layout source schema disk,
      Fine (attempt.result layout source schema).1.events := by
    intro attempt hattempt event hevent
    apply (fine_append.mp hfine).1
    rw [hrecorded.events]
    exact List.mem_flatMap.mpr ⟨attempt, hattempt, hevent⟩
  have hlasted : Lasted layout source schema lasting _ last.disk :=
    hrecorded.trail.lasted hwell hattempts
  refine ⟨?_, hlasted.stands, hlasted.nodup_places, fun hcases => ?_⟩
  · have hreport : last.report = _ := hrecorded.report
    rw [hreport]
    exact length_written _
  · apply Attempt.lasting_of_pairwise
    rcases hcases with hforce | hapart
    · exact List.pairwise_of_forall fun earlier later =>
        Attempt.displaces_of_unforced hforce later earlier
    · exact (pairwise_attemptsFrom _ hapart).filter _

/-- Two tables of the same name, in different schemas. -/
def namesakes : Schema where
  tables :=
    [{ name := "news", schema := "public", columns := [], indexes := [] },
      { name := "news", schema := "archive", columns := [], indexes := [] }]

/-- A project whose files are written over. -/
def forcedLayout : Layout where
  base := "/"
  modelsDirectory := "m"
  migrationsDirectory := "n"
  force := true
  stamp := "2024_01_01"

/-- What a run does for them: it writes four files, and those of the first table are displaced. -/
theorem run_namesakes :
    let source : Stub.Source := fun _ kind => .ok (some kind.label)
    let last := run forcedLayout source namesakes {}
    let all := written forcedLayout source namesakes (attempts forcedLayout source namesakes {})
    (Fine last.events ∧ last.report.models = 2 ∧ last.report.migrations = 2) ∧
      (∃ attempt ∈ all, last.disk.find? (attempt.path forcedLayout) = none) ∧
      (Attempt.lasting forcedLayout all).map (fun attempt =>
          (attempt.table.schema, attempt.file forcedLayout)) =
        [("archive", "News.php"), ("archive", "2024_01_01_000001_create_news_table.php")] := by
  decide +kernel

/-- The two files of the second table last. -/
theorem run_namesakes_last :
    let source : Stub.Source := fun _ kind => .ok (some kind.label)
    let last := run forcedLayout source namesakes {}
    let all := written forcedLayout source namesakes (attempts forcedLayout source namesakes {})
    let lasting := Attempt.lasting forcedLayout all
    Fine last.events ∧ all.length = last.report.models + last.report.migrations ∧
      lasting.map (fun attempt => (attempt.table.schema, attempt.file forcedLayout)) =
        [("archive", "News.php"), ("archive", "2024_01_01_000001_create_news_table.php")] ∧
      ∀ attempt ∈ lasting, attempt.Stands forcedLayout source namesakes last.disk := by
  intro source last all lasting
  have hfine : Fine last.events := run_namesakes.1.1
  obtain ⟨hcount, hstands, -, -⟩ := run_written_lasts forcedLayout source namesakes {}
    (Disk.wellFormed_of_entries (by decide)) hfine
  exact ⟨hfine, hcount, run_namesakes.2.2, hstands⟩

/-- The migration of the first table is counted as written, and that of the second takes it away. -/
theorem run_namesakes_displaced :
    let source : Stub.Source := fun _ kind => .ok (some kind.label)
    let last := run forcedLayout source namesakes {}
    let all := written forcedLayout source namesakes (attempts forcedLayout source namesakes {})
    (Fine last.events ∧ last.report.models = 2 ∧ last.report.migrations = 2) ∧
      ∃ attempt ∈ all, ¬attempt.Stands forcedLayout source namesakes last.disk := by
  refine And.imp_right ?_ run_namesakes
  rintro ⟨⟨attempt, hattempt, hnone⟩, -⟩
  refine ⟨attempt, hattempt, ?_⟩
  rintro ⟨contents, -, hfind⟩
  rw [hnone] at hfind
  cases hfind

end SchemaScaffold.Generation
