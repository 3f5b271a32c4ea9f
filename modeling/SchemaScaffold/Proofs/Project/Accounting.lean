import SchemaScaffold.Project
import SchemaScaffold.Proofs.Generation.Attempt
import SchemaScaffold.Proofs.Schema.Linking

/-!
# What becomes of a request

A request fails as a whole only before anything is written: there is no schema file, it is no text,
or the text is no schema. After that nothing ends the run early. Both files of every table are
tried, each on the disk that the attempts before it left, and the report says of every attempt how
it went. Nothing is assumed of the disk, of the stubs or of the parser, except that a parser, which
may well be a program of its own, leaves the disk as it is.
-/

namespace SchemaScaffold.Project

open Generation (Progress Recorded Trail attempts expectedFiles reportOf)

/-- The files of a catalog are generated by the attempts for its tables. -/
theorem generateFrom_eq_attempts (layout : Layout) (stubs : Stub.Source) (catalog : Catalog)
    (disk : Disk) :
    let schema := Schema.ofCatalog catalog
    let tried := attempts layout stubs schema disk
    (generateFrom layout stubs catalog disk).1 = reportOf layout stubs schema tried ∧
      ∃ sequence, Trail layout stubs schema disk tried sequence
        (generateFrom layout stubs catalog disk).2.2 := by
  intro schema tried
  have hrecorded : Recorded layout stubs schema disk tried
      (Progress.through layout stubs schema { disk } schema.tables) :=
    Generation.recorded_attempts disk
  exact ⟨hrecorded.report, _, hrecorded.trail⟩

/-- A request either fails and leaves the disk as it was, or it tries the model and the migration of
every table of the catalog once, in order, and counts how all of them went. A migration is tried
under the count of the migrations that were written before it. -/
theorem generateWith_accounts (parse : String → Disk → Frontend.Parsed) (input : String)
    (layout : Layout) (stubs : Stub.Source) (disk : Disk)
    (hparse : ∀ source, (parse source disk).disk = disk) :
    let outcome := generateWith parse input layout stubs disk
    match outcome.report with
    | .error _ => outcome.disk = disk
    | .ok report => ∃ source catalog, readInput input disk = .ok source ∧
        (parse source disk).catalog = .ok catalog ∧
        let schema := Schema.ofCatalog catalog
        let tried := attempts layout stubs schema disk
        report.models + report.migrations + report.skipped + report.failed =
            2 * catalog.tables.length ∧
          report = reportOf layout stubs schema tried ∧
          tried.map (fun attempt => (attempt.kind, attempt.table)) =
            expectedFiles schema.tables ∧
          (∃ sequence, Trail layout stubs schema disk tried sequence outcome.disk) ∧
          ∀ before attempt behind, tried = before ++ attempt :: behind →
            attempt.sequence = before.countP (·.wrote layout stubs schema .migration) := by
  intro outcome
  simp only [outcome, generateWith]
  cases hread : readInput input disk with
  | error error => rfl
  | ok source =>
      cases hcatalog : (parse source disk).catalog with
      | error error =>
          simp only [hcatalog]
          exact hparse source
      | ok catalog =>
          simp only [hcatalog, hparse source]
          obtain ⟨hreport, sequence, htrail⟩ := generateFrom_eq_attempts layout stubs catalog disk
          refine ⟨source, catalog, rfl, hcatalog, ?_, hreport, ?_, ⟨sequence, htrail⟩, ?_⟩
          · rw [hreport, Generation.total_reportOf, attempts, Generation.length_attemptsFrom,
              Schema.length_tables_ofCatalog]
          · exact Generation.map_attemptsFrom _ _
          · intro before attempt behind hsplit
            exact (htrail.upTo hsplit).sequence_eq

/-- A project with two tables. The class of the first would have a reserved name and its migration
cannot be written, and the model of the second was edited by hand. -/
def troubledDisk : Disk where
  entries :=
    [(["schema.json"], .file (.text
        "\x7b\"tables\": [\x7b\"name\": \"classes\"\x7d, \x7b\"name\": \"users\"\x7d]\x7d")),
      (["m"], .directory), (["m", "User.php"], .file (.text "edited"))]
  refuses access place :=
    access = .create && place = ["n", "2024_01_01_000000_create_classes_table.php"]

/-- Where the files of that project are. -/
def troubledLayout : Layout where
  base := "/"
  modelsDirectory := "m"
  migrationsDirectory := "n"
  stamp := "2024_01_01"

/-- All four files of that project are counted, the two that failed among them. -/
theorem generateWith_accounts_troubled :
    let parse := Frontend.json.parse fun _ => none
    let outcome := generateWith parse "schema.json" troubledLayout
      (fun _ kind => .ok (some kind.label)) troubledDisk
    (∀ source, (parse source troubledDisk).disk = troubledDisk) ∧
      ∃ report, ∃ catalog : Catalog, outcome.report = .ok report ∧
        report = { models := 0, migrations := 1, skipped := 1, failed := 2 } ∧
        report.models + report.migrations + report.skipped + report.failed =
          2 * catalog.tables.length := by
  intro parse outcome
  have hparse : ∀ source, (parse source troubledDisk).disk = troubledDisk := fun _ => rfl
  have haccounts := generateWith_accounts parse "schema.json" troubledLayout
    (fun _ kind => .ok (some kind.label)) troubledDisk hparse
  have hcounts : outcome.report.toOption =
      some { models := 0, migrations := 1, skipped := 1, failed := 2 } := by decide +kernel
  refine ⟨hparse, ?_⟩
  cases hreport : outcome.report with
  | error error =>
      rw [hreport] at hcounts
      cases hcounts
  | ok report =>
      rw [hreport] at hcounts
      simp only [outcome] at hreport
      simp only [hreport] at haccounts
      obtain ⟨source, catalog, -, -, htotal, -⟩ := haccounts
      exact ⟨report, catalog, rfl, Option.some.inj hcounts, htotal⟩

end SchemaScaffold.Project
