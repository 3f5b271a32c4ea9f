import SchemaScaffold.Proofs.Generation.Step

/-!
# Migrations that cannot be generated

A migration is rendered first, then the files that it replaces are removed, then it is written. So a
migration that cannot be rendered leaves everything as it was. When the file itself cannot be
written, the older files for the same migration are gone already; there is no way back to them. When
it was opened and the writing broke off, it is left in part, and what it held before is lost too.
All else that is on the disk is kept, whatever fails.
-/

namespace SchemaScaffold.Generation

open Convention (migrationName)
open Disk (IsStump)
open Layout (exists_migrationFile_eq isName_named)
open Schema (Table)

variable {layout : Layout} {source : Stub.Source} {schema : Schema} {table : Table} {disk : Disk}

/-- What a failed migration took away: files that it was to replace, with force, after it had been
rendered and before it could not be written. -/
structure Replaceable (layout : Layout) (source : Stub.Source) (schema : Schema) (table : Table)
    (disk : Disk) (events : List Event) (place : Disk.Location) : Prop where
  forced : layout.force = true
  rendered : ∃ migration, Migration.render (source disk) schema table = .ok migration
  notWritten : ∃ path fault, Event.notWritten path fault ∈ events
  existing : isExistingPlace disk layout.migrationsPath (migrationName table.name) place

/-- What a failed migration left behind in its own place: the first part of what had been rendered,
since the file was open when the writing broke off. -/
structure Torn (layout : Layout) (source : Stub.Source) (schema : Schema) (table : Table)
    (sequence : Nat) (disk : Disk) (step : Step) (place : Disk.Location) : Prop where
  leads : step.disk.resolve (layout.migrationFile sequence (migrationName table.name)) = .ok place
  holds : ∃ migration part, Migration.render (source disk) schema table = .ok migration ∧
    step.disk.fileAt? place = some part ∧ IsStump part (.text migration.contents)
  told : .notWritten (layout.migrationFile sequence (migrationName table.name)) .brokenOff ∈
    step.events

/-- Removing the files for a migration has left every file but those. -/
theorem Removed.fileAt?_cases {name : String} {removals : List Event} {cleared : Disk}
    (hremoved : Removed disk layout.migrationsPath name removals cleared) (place : Disk.Location) :
    cleared.fileAt? place = disk.fileAt? place ∨
      cleared.fileAt? place = none ∧ isExistingPlace disk layout.migrationsPath name place := by
  by_cases hexisting : isExistingPlace disk layout.migrationsPath name place
  · rcases hremoved.node? place with hgone | hkept
    · exact .inr ⟨Disk.fileAt?_eq_none hgone, hexisting⟩
    · left
      rw [Disk.fileAt?, hkept, Disk.fileAt?]
  · exact .inl (hremoved.fileAt? place hexisting)

/-- A migration that could not be written has touched no file but its own, where the writing broke
off. Whatever the stamp is, that is where its path leads. -/
theorem touches_of_not_written {sequence : Nat} {content : Content} {fault : Disk.Fault}
    {after : Disk} (hwell : disk.WellFormed)
    (hwrite : disk.writeThrough (layout.migrationFile sequence (migrationName table.name)) content =
      (after, some fault)) :
    disk.Touches (fun place => fault = .brokenOff ∧
      after.resolve (layout.migrationFile sequence (migrationName table.name)) = .ok place ∧
      ∃ part, after.fileAt? place = some part ∧ IsStump part content) after := by
  by_cases hfault : fault = .brokenOff
  · obtain rfl := hfault
    have hname := isName_named (Disk.nul_not_mem_of_writeThrough hwrite (by simp))
    obtain ⟨directory, hpath⟩ := exists_migrationFile_eq layout
    rw [hpath] at hwrite ⊢
    cases Disk.abandoned_of_writeThrough hwell hname hwrite with
    | unopened _ htouches _ => exact htouches.mono fun place h => h.elim
    | stump hpart hwrote =>
        refine hwrote.toTouches.mono ?_
        rintro place rfl
        exact ⟨rfl, hwrote.resolve hname, _, hwrote.written, hpart⟩
  · exact Disk.touches_of_writeThrough_failed hwell hwrite hfault

/-- A file in a directory that can be listed is found for the migration whose name it ends in. -/
theorem mem_existingNames_of_listable {directory name file : String} {content : Content}
    (hwell : disk.WellFormed) (hlistable : disk.Listable directory)
    (hnul : '\x00' ∉ directory.toList)
    (hending : Text.hasEnding (migrationEnding name) file = true)
    (hfile : disk.fileAt? (disk.placeOf directory ++ [file]) = some content) :
    file ∈ existingNames disk directory name := by
  have hnode := Disk.fileAt?_eq_some_iff.mp hfile
  have hleads : disk.Leads directory := hlistable.reaches (hwell _ _ _ hnode).2.2
  refine mem_existingNames_iff.mpr ⟨hlistable.exists_list rfl hnul hleads, hending, ?_⟩
  rw [hnode]
  rfl

/-- Where older files for a migration would have been found, and there are none, no file is lost when
it cannot be written: one at its own path would have been found too. -/
theorem fileAt?_of_nothing_found {sequence : Nat} {written : Content} {fault : Disk.Fault}
    {after : Disk} (hwell : disk.WellFormed) (hslash : '/' ∉ layout.stamp.toList)
    (hlistable : disk.Listable layout.migrationsPath)
    (hnone : existingNames disk layout.migrationsPath (migrationName table.name) = [])
    (hwrite : disk.writeThrough (layout.migrationFile sequence (migrationName table.name)) written =
      (after, some fault)) {place : Disk.Location} {content : Content}
    (hcontent : disk.fileAt? place = some content) : after.fileAt? place = some content := by
  have htouches := touches_of_not_written hwell hwrite
  rw [htouches.fileAt? place, hcontent]
  rintro ⟨-, hleads, -⟩
  have hfile := isName_named (Disk.resolve_eq_ok_iff.mp hleads).2.1
  rw [Layout.named_eq hslash] at hfile
  obtain ⟨hnul, -, -, rfl⟩ := (Disk.resolve_joinPath_eq_ok_iff hfile).mp hleads
  rw [htouches.placeOf] at hcontent
  have hfound := mem_existingNames_of_listable hwell hlistable hnul
    (Layout.hasEnding_migrationFileName layout sequence (migrationName table.name)) hcontent
  rw [hnone] at hfound
  cases hfound

/-- When generating a migration fails, the number for the next one stays as it is, all directories
are kept, and every file is kept with its content, with two exceptions. An older file for the same
migration may have been removed, with force, after the new one was rendered and before it could not
be written. And a file at the very path of the new one holds the first part of it if the writing
broke off. Where the directory of migrations can be listed, so that older files are found there, no
file that was there is lost or changed without force, or when there was none for the migration. -/
theorem failed_migration_loses_only_replaced (layout : Layout) (source : Stub.Source)
    (schema : Schema) (table : Table) (sequence : Nat) (disk : Disk) (hwell : disk.WellFormed)
    (hfailed : (migrationStep layout source schema table sequence disk).1.outcome = .failed) :
    let result := migrationStep layout source schema table sequence disk
    result.2 = sequence ∧ disk.Keeps result.1.disk ∧
      (∀ place, result.1.disk.fileAt? place = disk.fileAt? place ∨
        result.1.disk.fileAt? place = none ∧
          Replaceable layout source schema table disk result.1.events place ∨
        Torn layout source schema table sequence disk result.1 place) ∧
      ('/' ∉ layout.stamp.toList → disk.Listable layout.migrationsPath →
        layout.force = false ∨
          existingMigrations disk layout.migrationsPath (migrationName table.name) = [] →
        ∀ place content, disk.fileAt? place = some content →
          result.1.disk.fileAt? place = some content) := by
  intro result
  have htried : MigrationTried layout source schema table sequence disk result :=
    migrationTried_migrationStep hwell sequence
  change result.1.outcome = .failed at hfailed
  clear_value result
  cases htried with
  | kept | written => cases hfailed
  | notRendered =>
      exact ⟨rfl, .refl disk, fun _ => .inl rfl, fun _ _ _ _ _ hcontent => hcontent⟩
  | @notWritten migration cleared after removals fault hrender hfree hremoved hwrite =>
      have hname := name_of_render hrender
      rw [hname] at hfree hremoved hwrite ⊢
      have htouches := touches_of_not_written hremoved.wellFormed hwrite
      have htold (told : Event) : told ∈ removals ++ [told] :=
        List.mem_append_right _ List.mem_cons_self
      refine ⟨rfl, hremoved.toKeeps.trans htouches.toKeeps, fun place => ?_, ?_⟩
      · by_cases htorn : fault = .brokenOff ∧
          after.resolve (layout.migrationFile sequence (migrationName table.name)) = .ok place ∧
          ∃ part, after.fileAt? place = some part ∧ IsStump part (.text migration.contents)
        · obtain ⟨rfl, hleads, part, hholds, hpart⟩ := htorn
          exact .inr (.inr ⟨hleads, ⟨migration, part, hrender, hholds, hpart⟩, htold _⟩)
        · rw [htouches.fileAt? place htorn]
          refine (hremoved.fileAt?_cases place).imp_right fun ⟨hgone, hexisting⟩ => .inl ⟨hgone, ?_⟩
          exact ⟨forced_of_isExistingPlace hfree hexisting, ⟨migration, hrender⟩, ⟨_, _, htold _⟩,
            hexisting⟩
      · intro hslash hlistable hcases place content hcontent
        have hnone : existingNames disk layout.migrationsPath (migrationName table.name) = [] := by
          rcases hcases with hforce | hnone
          · exact hfree hforce
          · rwa [existingMigrations_eq, List.map_eq_nil_iff] at hnone
        obtain rfl := hremoved.idle hnone
        exact fileAt?_of_nothing_found hwell hslash hlistable hnone hwrite hcontent

/-- A project with migrations of an earlier year. Where the new one of the users would go there is
something that cannot be removed, and a writing breaks off after a few bytes. -/
def crampedDisk (there : Disk.Node) : Disk where
  entries :=
    [(["n"], .directory),
      (["n", "2020_01_01_000000_create_users_table.php"], .file (.text "stale")),
      (["n", "2020_01_01_000001_create_posts_table.php"], .file (.text "other")),
      (["n", "2024_01_01_000000_create_users_table.php"], there)]
  refuses access place :=
    access == .remove && place == ["n", "2024_01_01_000000_create_users_table.php"]
  breaksOff _ _ := some 3

/-- Where the files of that project are, with force. -/
def crampedLayout : Layout where
  base := "/"
  modelsDirectory := "m"
  migrationsDirectory := "n"
  force := true
  stamp := "2024_01_01"

/-- The table whose migration cannot be written. -/
def crampedTable : Table := { name := "users", schema := "public", columns := [], indexes := [] }

/-- What is found for the migration of the users. -/
theorem existingMigrations_crampedDisk (there : Disk.Node)
    (hthere : there = .directory ∨ there = .file (.text "taken")) :
    existingMigrations (crampedDisk there) crampedLayout.migrationsPath
        (migrationName crampedTable.name) =
      ["/n/2020_01_01_000000_create_users_table.php",
        "/n/2024_01_01_000000_create_users_table.php"] := by
  have hlist : (crampedDisk there).list crampedLayout.migrationsPath =
      .ok ["2020_01_01_000000_create_users_table.php", "2020_01_01_000001_create_posts_table.php",
        "2024_01_01_000000_create_users_table.php"] := by
    rcases hthere with rfl | rfl <;>
      exact Disk.list_eq_ok_iff.mpr ⟨by decide, by decide, by decide +kernel, rfl,
        List.mergeSort_of_pairwise (by decide +kernel)⟩
  rw [existingMigrations, hlist]
  decide +kernel

/-- The migration of the posts is kept when the writing of that of the users breaks off. What was in
the way of that one is lost. -/
theorem failed_migration_keeps_posts :
    let disk := crampedDisk (.file (.text "taken"))
    let result := migrationStep crampedLayout (fun _ kind => .ok (some kind.label)) {}
      crampedTable 0 disk
    disk.WellFormed ∧ result.1.outcome = .failed ∧ result.2 = 0 ∧
      result.1.disk.fileAt? ["n", "2020_01_01_000001_create_posts_table.php"] =
        some (.text "other") ∧
      result.1.disk.fileAt? ["n", "2024_01_01_000000_create_users_table.php"] =
        some (.text "Mig") := by
  intro disk result
  have hexisting := existingMigrations_crampedDisk (.file (.text "taken")) (.inr rfl)
  have hwell : disk.WellFormed := Disk.wellFormed_of_entries (by decide)
  have hfailed : result.1.outcome = .failed := by
    simp only [result, disk, migrationStep, hexisting]
    decide +kernel
  obtain ⟨hnext, -, hfiles, -⟩ := failed_migration_loses_only_replaced crampedLayout
    (fun _ kind => .ok (some kind.label)) {} crampedTable 0 disk hwell hfailed
  refine ⟨hwell, hfailed, hnext, ?_, ?_⟩
  · have hdirectory : disk.placeOf crampedLayout.migrationsPath = ["n"] := by decide +kernel
    rcases hfiles ["n", "2020_01_01_000001_create_posts_table.php"] with
      hkept | ⟨-, hreplaceable⟩ | htorn
    · exact hkept
    · obtain ⟨file, hfile, hplace⟩ := hreplaceable.existing
      obtain rfl : "2020_01_01_000001_create_posts_table.php" = file := by
        rw [hdirectory] at hplace
        exact (List.cons.inj (List.cons.inj hplace).2).1
      have hending := (mem_existingNames_iff.mp hfile).2.1
      revert hending
      decide +kernel
    · have hname : Disk.IsName (crampedLayout.migrationFileName 0 (migrationName "users")) :=
        Layout.isName_migrationFileName rfl 0 "users"
      obtain ⟨-, -, -, hplace⟩ := (Disk.resolve_joinPath_eq_ok_iff hname).mp htorn.leads
      have hlast := congrArg List.getLast? hplace
      rw [List.getLast?_concat] at hlast
      revert hlast
      decide +kernel
  · simp only [result, disk, migrationStep, hexisting]
    decide +kernel

/-- The older migration of the users is lost when the new one cannot be written. -/
theorem failed_migration_loses_stale :
    let disk := crampedDisk .directory
    let result := migrationStep crampedLayout (fun _ kind => .ok (some kind.label)) {}
      crampedTable 0 disk
    let stale := ["n", "2020_01_01_000000_create_users_table.php"]
    result.1.outcome = .failed ∧ disk.fileAt? stale = some (.text "stale") ∧
      result.1.disk.fileAt? stale = none := by
  simp only [migrationStep, existingMigrations_crampedDisk .directory (.inl rfl)]
  decide +kernel

end SchemaScaffold.Generation
