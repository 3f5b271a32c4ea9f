import SchemaScaffold.Disk.Basic

/-!
# Where a project keeps its files

The directories of a project are given relative to its root, which is itself relative to the
directory in which the program runs; an absolute directory stands for itself.
-/

namespace SchemaScaffold

/-- The directories of a project, and how its files are written. -/
structure Layout where
  base : String := "."
  modelsDirectory : String := "app/Models"
  migrationsDirectory : String := "database/migrations"
  stubsDirectory : String := "stubs/dbml-to-laravel"
  /-- Write over models and put migrations in the place of older ones. -/
  force : Bool := false
  /-- The date that the names of migration files start with. -/
  stamp : String
  deriving DecidableEq, Repr

namespace Layout

/-- The path of the models. -/
def modelsPath (layout : Layout) : String := Disk.joinPath layout.base layout.modelsDirectory

/-- The path of the migrations. -/
def migrationsPath (layout : Layout) : String :=
  Disk.joinPath layout.base layout.migrationsDirectory

/-- The path of the stubs. -/
def stubsPath (layout : Layout) : String := Disk.joinPath layout.base layout.stubsDirectory

/-- The path of the file for a class. -/
def modelFile (layout : Layout) (className : String) : String :=
  Disk.joinPath layout.modelsPath (className ++ ".php")

/-- The number of a migration in the name of its file, at least six digits wide. -/
def sequenceDigits (sequence : Nat) : String :=
  let digits := toString sequence
  String.ofList (List.replicate (6 - digits.length) '0') ++ digits

/-- The name of the file for a migration. -/
def migrationFileName (layout : Layout) (sequence : Nat) (migrationName : String) : String :=
  layout.stamp ++ "_" ++ sequenceDigits sequence ++ "_" ++ migrationName ++ ".php"

/-- The path of the file for a migration. -/
def migrationFile (layout : Layout) (sequence : Nat) (migrationName : String) : String :=
  Disk.joinPath layout.migrationsPath (layout.migrationFileName sequence migrationName)

example : sequenceDigits 42 = "000042" ∧ sequenceDigits 1234567 = "1234567" := by decide +kernel

end Layout

end SchemaScaffold
