import SchemaScaffold.Convention
import SchemaScaffold.Schema.Basic
import SchemaScaffold.Text.Casing

/-!
# Relationships between models

A column with a reference makes its row belong to a row of another table. Seen from there, the
rows that point back are many, and they are found by going through the columns of all other
tables. Accessors are named by convention; a name that is taken gives way to another.
-/

namespace SchemaScaffold

open Schema (Table Column Reference)

/-- On which side of the reference the model stands. -/
inductive RelationKind
  | belongsTo
  | hasMany
  deriving DecidableEq, Repr

/-- The method that builds a relationship. -/
def RelationKind.builder : RelationKind → String
  | belongsTo => "belongsTo"
  | hasMany => "hasMany"

/-- A relationship of a model to another one: the accessor, the other model and its table, the
column that points, and the column that it points to unless that is the usual one. -/
structure Relationship where
  kind : RelationKind
  method : String
  model : String
  table : String
  foreignKey : String
  key : Option String
  deriving DecidableEq, Repr

namespace Relationship

/-! ## To one row -/

/-- The stem followed by the least number from two on that makes a new name, or the stem itself
when it is new. -/
def numbered (used : List String) (stem : String) : String :=
  if stem ∉ used then stem
  else
    (((List.range used.length).map fun n => stem ++ toString (n + 2)).find?
      (· ∉ used)).getD stem

/-- A name for an accessor: the one after the target, else the one after the column, else that
one with a number. -/
def accessor (used : List String) (byTarget byColumn : String) : String :=
  if byTarget ∉ used then byTarget else numbered used byColumn

/-- The relationships of the columns, given the accessors that are taken. -/
def belongsToFrom (names : Convention) (used : List String) : List Column → List Relationship
  | [] => []
  | column :: rest =>
    match column.foreignKey with
    | none => belongsToFrom names used rest
    | some reference =>
      let method := accessor used (names.belongsTo reference.table) (names.column column.name)
      { kind := .belongsTo
        method
        model := names.model reference.table
        table := reference.table
        foreignKey := column.name
        key := reference.key } :: belongsToFrom names (method :: used) rest

/-- The relationships to the rows that a table points to, in the order of its columns. -/
def belongsTo (names : Convention) (table : Table) : List Relationship :=
  belongsToFrom names [] table.columns

/-! ## To many rows -/

/-- A reference where it stands: the table, the column, and the reference. -/
structure Pointer where
  source : Table
  column : Column
  reference : Reference

/-- Every reference of a table. -/
def pointersOf (source : Table) : List Pointer :=
  source.columns.flatMap fun column => column.references.map fun reference =>
    { source, column, reference }

/-- Whether two tables are the same one, by name and schema. -/
def sameTable (a b : Table) : Bool := a.name == b.name && a.schema == b.schema

/-- The references to a table from all other tables. -/
def pointersTo (table : Table) (tables : List Table) : List Pointer :=
  ((tables.filter fun other => !sameTable other table).flatMap pointersOf).filter fun pointer =>
    Text.eqIgnoringAsciiCase pointer.reference.table table.name

/-- The relationship that a reference makes, seen from the table it points to. -/
def ofPointer (names : Convention) (pointer : Pointer) : Relationship where
  kind := .hasMany
  method := names.hasMany pointer.source.name
  model := names.model pointer.source.name
  table := pointer.source.name
  foreignKey := pointer.column.name
  key := pointer.reference.key

/-- Keep the first of the relationships with the same accessor and table, given the pairs that
were met before. -/
def distinctFrom (met : List (String × String)) : List Relationship → List Relationship
  | [] => []
  | relationship :: rest =>
    let pair := (relationship.method, relationship.table)
    if pair ∈ met then distinctFrom met rest
    else relationship :: distinctFrom (pair :: met) rest

/-- The relationships to the rows that point to a table. -/
def hasMany (names : Convention) (table : Table) (schema : Schema) : List Relationship :=
  distinctFrom [] ((pointersTo table schema.tables).map (ofPointer names))

/-- All relationships of a table: first to one row, then to many. -/
def all (names : Convention) (table : Table) (schema : Schema) : List Relationship :=
  belongsTo names table ++ hasMany names table schema

end Relationship

end SchemaScaffold
