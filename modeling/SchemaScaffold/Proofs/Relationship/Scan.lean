import SchemaScaffold.Proofs.Relationship.Source

/-!
# The scan for relationships to many rows

The relationships to many rows can be found in one pass: through all other tables, their columns
and their references, with the set of pairs of an accessor and a table that were met so far. A
reference that points elsewhere or whose pair was met is passed over. Here this scan is written out
as three loops inside each other and compared with a definition without any state: the references
to the table in the order of their declaration, of which the first of each source name is kept. The
pair that the set remembers says no more than the name, since the accessor follows from it.
-/

namespace SchemaScaffold.Relationship

open Schema (Table Column Reference)

/-- The relationship of a reference is met by the accessor and the name of its source. -/
theorem pair_ofPointer (names : Convention) (pointer : Pointer) :
    pair (ofPointer names pointer) = (names.hasMany pointer.source.name, pointer.source.name) :=
  rfl

/-- A scan so far: the pairs that were met, and what was found. -/
structure Scan where
  met : List (String × String) := []
  found : List Relationship := []

namespace Scan

/-- Look at a reference of a column of another table. -/
def visit (names : Convention) (table source : Table) (column : Column) (scan : Scan)
    (reference : Reference) : Scan :=
  if !Text.eqIgnoringAsciiCase reference.table table.name then scan
  else
    let method := names.hasMany source.name
    if scan.met.contains (method, source.name) then scan
    else
      { met := (method, source.name) :: scan.met
        found := scan.found ++
          [{ kind := .hasMany
             method
             model := names.model source.name
             table := source.name
             foreignKey := column.name
             key := reference.key }] }

/-- Look at all references of another table, column by column. -/
def visitTable (names : Convention) (table : Table) (scan : Scan) (source : Table) : Scan :=
  source.columns.foldl (fun scan column =>
    column.references.foldl (visit names table source column) scan) scan

/-- Look at all tables but the one that the relationships are for. -/
def through (names : Convention) (table : Table) (tables : List Table) (scan : Scan) : Scan :=
  (tables.filter fun other => !sameTable other table).foldl (visitTable names table) scan

/-- What a scan finds in the end, when some relationships are still to be made. -/
def outcome (scan : Scan) (coming : List Relationship) : List Relationship :=
  scan.found ++ distinctFrom scan.met coming

/-- Looking at a reference changes nothing of what is found in the end: what it makes, if it points
to the table, is then found or passed over instead of still to be made. -/
theorem outcome_visit (names : Convention) (table : Table) (scan : Scan) (pointer : Pointer)
    (coming : List Relationship) :
    (visit names table pointer.source pointer.column scan pointer.reference).outcome coming =
      scan.outcome (if Text.eqIgnoringAsciiCase pointer.reference.table table.name = true
        then ofPointer names pointer :: coming else coming) := by
  unfold visit
  by_cases hpoints : Text.eqIgnoringAsciiCase pointer.reference.table table.name = true
  · rw [if_neg (by simp [hpoints]), if_pos hpoints, outcome, outcome, distinctFrom_cons,
      pair_ofPointer]
    dsimp only
    by_cases hmet : (names.hasMany pointer.source.name, pointer.source.name) ∈ scan.met
    · rw [if_pos (List.contains_iff_mem.mpr hmet), if_pos hmet]
    · rw [if_neg (mt List.contains_iff_mem.mp hmet), if_neg hmet]
      exact List.append_assoc _ _ _
  · rw [if_pos (by simpa using hpoints), if_neg hpoints]

/-- Looking at references one after another finds what they make where they point to the table, as
far as the pairs are new. -/
theorem outcome_foldl_visit (names : Convention) (table : Table) (pointers : List Pointer)
    (scan : Scan) :
    (pointers.foldl (fun scan pointer =>
        visit names table pointer.source pointer.column scan pointer.reference) scan).outcome [] =
      scan.outcome ((pointers.filter fun pointer =>
        Text.eqIgnoringAsciiCase pointer.reference.table table.name).map (ofPointer names)) := by
  induction pointers generalizing scan with
  | nil => rfl
  | cons pointer rest ih =>
      rw [List.foldl_cons, ih, outcome_visit, List.filter_cons]
      split
      · rw [List.map_cons]
      · rfl

/-- The three loops are one loop over the references of all tables in their order. -/
theorem through_eq_foldl (names : Convention) (table : Table) (tables : List Table) (scan : Scan) :
    through names table tables scan =
      ((tables.filter fun other => !sameTable other table).flatMap pointersOf).foldl
        (fun scan pointer =>
          visit names table pointer.source pointer.column scan pointer.reference) scan := by
  simp only [through, List.foldl_flatMap, pointersOf, List.foldl_map]
  rfl

/-- The scan finds the relationships to many rows. -/
theorem found_through (names : Convention) (table : Table) (schema : Schema) :
    (through names table schema.tables {}).found = hasMany names table schema := by
  have houtcome := outcome_foldl_visit names table
    ((schema.tables.filter fun other => !sameTable other table).flatMap pointersOf) {}
  rw [← through_eq_foldl, outcome, distinctFrom, List.append_nil] at houtcome
  exact houtcome

end Scan

/-- Whether two references stand in tables of the same name. -/
def sameSource (first second : Pointer) : Bool := first.source.name == second.source.name

/-- Relationships of references are kept where the name of the source is new: they are the first of
each name among those whose name was not met. -/
theorem distinctFrom_map_ofPointer (names : Convention) (met : List String)
    (pointers : List Pointer) :
    distinctFrom (met.map fun name => (names.hasMany name, name))
        (pointers.map (ofPointer names)) =
      ((pointers.filter fun pointer => pointer.source.name ∉ met).eraseDupsBy sameSource).map
        (ofPointer names) := by
  induction pointers generalizing met with
  | nil => rfl
  | cons pointer rest ih =>
      have hpair : pair (ofPointer names pointer) ∈
          met.map (fun name => (names.hasMany name, name)) ↔ pointer.source.name ∈ met := by
        simp [pair_ofPointer]
      rw [List.map_cons, distinctFrom_cons]
      by_cases hmet : pointer.source.name ∈ met
      · rw [if_pos (hpair.mpr hmet), List.filter_cons_of_neg (by simpa using hmet), ih]
      · rw [if_neg (mt hpair.mp hmet), List.filter_cons_of_pos (by simpa using hmet),
          List.eraseDupsBy_cons, List.map_cons]
        have hrest := ih (pointer.source.name :: met)
        rw [List.map_cons] at hrest
        -- What is dropped behind the first of a name is what a set with that name drops.
        have hdrop : (rest.filter fun other => other.source.name ∉ pointer.source.name :: met) =
            (rest.filter fun other => other.source.name ∉ met).filter fun other =>
              sameSource other pointer = false := by
          rw [List.filter_filter]
          exact List.filter_congr fun other _ => by simp [sameSource]
        rw [← hdrop]
        exact congrArg _ hrest

/-- The relationships to many rows come from the first reference of each source name. -/
theorem hasMany_eq_map_eraseDupsBy (names : Convention) (table : Table) (schema : Schema) :
    hasMany names table schema =
      ((pointersTo table schema.tables).eraseDupsBy sameSource).map (ofPointer names) := by
  have hfirst := distinctFrom_map_ofPointer names [] (pointersTo table schema.tables)
  simpa [hasMany] using hfirst

/-- The scan through all other tables, their columns and their references finds exactly what the
first reference of each source name makes, among the references to the table in the order of their
declaration: that column as foreign key, and the column it points to as key unless it is the usual
one. So every name of a source occurs once, and none comes from the table itself. -/
theorem scan_finds_first_of_each_source (names : Convention) (table : Table) (schema : Schema) :
    (Scan.through names table schema.tables {}).found = hasMany names table schema ∧
      hasMany names table schema =
        ((pointersTo table schema.tables).eraseDupsBy sameSource).map (fun pointer =>
          { kind := .hasMany
            method := names.hasMany pointer.source.name
            model := names.model pointer.source.name
            table := pointer.source.name
            foreignKey := pointer.column.name
            key := if pointer.reference.column.getD "id" = "id" then none
              else some (pointer.reference.column.getD "id") }) ∧
      (∀ name, ((hasMany names table schema).map (·.table)).count name =
        if ∃ pointer ∈ pointersTo table schema.tables, pointer.source.name = name then 1 else 0) ∧
      ∀ relationship ∈ hasMany names table schema,
        ∃ pointer ∈ pointersTo table schema.tables, ofPointer names pointer = relationship ∧
          (pointer.source.name ≠ table.name ∨ pointer.source.schema ≠ table.schema) := by
  refine ⟨Scan.found_through names table schema, hasMany_eq_map_eraseDupsBy names table schema,
    fun name => ?_, fun relationship hmem => ?_⟩
  · rw [nodup_tables_hasMany.count]
    simp only [mem_tables_hasMany]
  · obtain ⟨pointer, hpointer, hmade⟩ := exists_pointer_of_mem_hasMany hmem
    obtain ⟨-, hother, -⟩ := mem_pointersTo.mp hpointer
    refine ⟨pointer, hpointer, hmade, ?_⟩
    rw [sameTable, Bool.and_eq_false_iff, beq_eq_false_iff_ne, beq_eq_false_iff_ne] at hother
    exact hother

-- A source counts with its first reference to the table, whose column is the key unless it is the
-- usual one.
example :
    let users (column : String) : Reference :=
      { table := "users", schema := none, column, onDelete := none, onUpdate := none }
    let posts : Table :=
      { name := "posts", schema := "public", indexes := []
        columns :=
          [{ name := "author", type := { name := "uuid" }, references := [users "uuid"] },
            { name := "editor", type := { name := "bigint" }, references := [users "id"] }] }
    let owner : Table := { name := "users", schema := "public", columns := [], indexes := [] }
    (hasMany .eloquent owner { tables := [owner, posts] }).map (fun relationship =>
      (relationship.foreignKey, relationship.key)) = [("author", some "uuid")] := by
  decide +kernel

end SchemaScaffold.Relationship
