import SchemaScaffold.Keyed
import SchemaScaffold.Catalog.Lenient
import SchemaScaffold.Log
import SchemaScaffold.Schema.Basic

/-!
# Linking a catalog

Linking turns a catalog into a schema. All tables are taken over first while their columns are
entered in an index by their full name; then each ref is resolved through that index and leaves a
reference at the columns of its many side. Refs that are malformed, not one-to-many or dangling
are dropped, and so are indexes without columns: linking never fails. What was dropped can be
listed afterwards.
-/

namespace SchemaScaffold.Schema

/-- Tables without a schema are in this one. -/
def defaultSchema : String := "public"

/-- The default of a column; a record with neither value nor kind is none. -/
def DefaultValue.ofCatalog? (record : Catalog.Default) : Option DefaultValue :=
  if record.value.isNull && record.kind.isNone then none
  else some { value := record.value, kind := record.kind.map Text.toLower }

/-- A column without references. -/
def Column.ofCatalog (record : Catalog.Column) : Column where
  name := record.name
  type :=
    { name := record.type.name, schemaName := record.type.schemaName, args := record.type.args }
  primaryKey := record.primaryKey
  unique := record.unique
  notNull := record.notNull
  autoIncrement := record.autoIncrement
  defaultValue := record.defaultValue.bind DefaultValue.ofCatalog?

/-- An index with the columns that have a name, if there are any. -/
def Index.ofCatalog? (record : Catalog.Index) : Option Index :=
  let columns := (record.columns.map (·.columnName)).filter (· ≠ "")
  if columns.isEmpty then none
  else some { name := record.name, columns, unique := record.unique, kind := record.kind }

/-- A table whose columns have no references yet. -/
def Table.ofCatalog (record : Catalog.Table) : Table where
  name := record.name
  schema := record.schema.getD defaultSchema
  columns := record.columns.map Column.ofCatalog
  indexes := record.indexes.filterMap Index.ofCatalog?

/-- An enumeration with its values as texts. -/
def Enumeration.ofCatalog (record : Catalog.Enumeration) : Enumeration where
  name := record.name
  values := record.values.map Catalog.scalarText

/-- The name under which a column is entered, without regard to case. -/
def columnKey (schema table column : String) : String :=
  Text.toLower (schema ++ "." ++ table ++ "." ++ column)

/-- The place of a column: which table, and which column of it. -/
structure Slot where
  table : Nat
  column : Nat
  deriving DecidableEq, Repr

/-- Columns by their full names. A later entry hides earlier ones under the same key. -/
structure ColumnIndex where
  entries : List (String × Slot) := []
  deriving DecidableEq, Repr

namespace ColumnIndex

/-- Enter a column. -/
def insert (index : ColumnIndex) (key : String) (slot : Slot) : ColumnIndex :=
  ⟨(key, slot) :: index.entries⟩

/-- The column entered last under a key. -/
def find? (index : ColumnIndex) (key : String) : Option Slot :=
  index.entries.lookup key

/-- Enter the columns of a table from a position on. -/
def insertColumns (index : ColumnIndex) (table : Table) (tableSlot : Nat) :
    Nat → List Column → ColumnIndex
  | _, [] => index
  | columnSlot, column :: rest =>
    insertColumns
      (index.insert (columnKey table.schema table.name column.name) ⟨tableSlot, columnSlot⟩)
      table tableSlot (columnSlot + 1) rest

/-- Enter the columns of all tables from a position on. -/
def insertTables (index : ColumnIndex) : Nat → List Table → ColumnIndex
  | _, [] => index
  | tableSlot, table :: rest =>
    insertTables (index.insertColumns table tableSlot 0 table.columns) (tableSlot + 1) rest

/-- The index of a list of tables. -/
def ofTables (tables : List Table) : ColumnIndex := insertTables {} 0 tables

end ColumnIndex

/-- The many side and the one side of a ref, whichever comes first. Other pairs of sides are
not one-to-many. -/
def direction? (first second : Catalog.Endpoint) : Option (Catalog.Endpoint × Catalog.Endpoint) :=
  if first.relation = some "*" ∧ second.relation = some "1" then some (first, second)
  else if first.relation = some "1" ∧ second.relation = some "*" then some (second, first)
  else none

/-- The reference that a ref leaves at each column of its many side, given its one side. -/
def Reference.ofRef (ref : Catalog.Ref) (one : Catalog.Endpoint) : Reference where
  table := one.table
  schema := one.schema
  column := one.columns.head?
  onDelete := ref.onDelete.map Text.toLower
  onUpdate := ref.onUpdate.map Text.toLower

/-- The key of a column on the many side of a ref. -/
def endpointKey (many : Catalog.Endpoint) (column : String) : String :=
  columnKey (many.schema.getD defaultSchema) many.table column

/-- Leave a reference at a slot. -/
def addReferenceAt (tables : List Table) (slot : Slot) (reference : Reference) : List Table :=
  tables.modify slot.table fun table =>
    { table with columns := table.columns.modify slot.column (·.addReference reference) }

/-- Resolve one ref. -/
def attach (index : ColumnIndex) (tables : List Table) (ref : Catalog.Ref) : List Table :=
  match ref.endpoints with
  | [first, second] =>
    match direction? first second with
    | some (many, one) =>
      many.columns.foldl (fun tables column =>
        match index.find? (endpointKey many column) with
        | some slot => addReferenceAt tables slot (.ofRef ref one)
        | none => tables) tables
    | none => tables
  | _ => tables

/-- Link a catalog. -/
def ofCatalog (catalog : Catalog) : Schema :=
  let tables := catalog.tables.map Table.ofCatalog
  let index := ColumnIndex.ofTables tables
  { tables := catalog.refs.foldl (attach index) tables
    enums := catalog.enums.foldl (fun enums record =>
      Keyed.put record.name (Enumeration.ofCatalog record) enums) [] }

/-! ## What was dropped -/

/-- Something that linking leaves out. -/
inductive Omission
  | indexWithoutColumns (table : String)
  | endpointCount (count : Nat)
  | notOneToMany (first second : String)
  | unknownColumn (key : String)
  deriving DecidableEq, Repr

/-- The indexes of a table that are left out. -/
def tableOmissions (record : Catalog.Table) : List Omission :=
  (record.indexes.filter fun index => (Index.ofCatalog? index).isNone).map fun _ =>
    .indexWithoutColumns record.name

/-- What of a ref is left out. -/
def refOmissions (index : ColumnIndex) (ref : Catalog.Ref) : List Omission :=
  match ref.endpoints with
  | [first, second] =>
    match direction? first second with
    | some (many, _) =>
      ((many.columns.map (endpointKey many)).filter fun key => (index.find? key).isNone).map
        .unknownColumn
    | none => [.notOneToMany first.table second.table]
  | endpoints => [.endpointCount endpoints.length]

/-- All that linking leaves out of a catalog, in the order in which it is met. -/
def omissions (catalog : Catalog) : List Omission :=
  let index := ColumnIndex.ofTables (catalog.tables.map Table.ofCatalog)
  catalog.tables.flatMap tableOmissions ++ catalog.refs.flatMap (refOmissions index)

/-- The log line for something that is left out. -/
def Omission.line (omission : Omission) : Log.Line :=
  let (message, fields) :=
    match omission with
    | indexWithoutColumns table => ("dropping index without columns", [("table", table)])
    | endpointCount count =>
      ("skipping ref without exactly two endpoints", [("endpoints", toString count)])
    | notOneToMany first second =>
      ("skipping ref that is not one-to-many", [("from", first), ("to", second)])
    | unknownColumn key => ("skipping ref to unknown column", [("column", key)])
  { level := .debug, area := ["builder"], message, fields }

end SchemaScaffold.Schema
