import SchemaScaffold.Catalog.Basic
import SchemaScaffold.Text.Casing

/-!
# Schemas

A schema is a catalog with its refs resolved: every column knows the tables it points to, indexes
without columns are gone, and enumerations are found by their name. Everything that is written for
a table is computed from here.
-/

namespace SchemaScaffold

namespace Schema

/-- The type of a column. -/
structure ColumnType where
  name : String
  schemaName : Option String := none
  args : List String := []
  deriving DecidableEq, Repr

/-- A default value; its kind is in lower case. -/
structure DefaultValue where
  value : Json
  kind : Option String
  deriving Repr

/-- Whether the value is SQL to be taken as it stands. -/
def DefaultValue.isExpression (default : DefaultValue) : Bool :=
  default.kind == some "expression" || default.kind == some "raw"

/-- The referenced column when a reference names none. -/
def defaultTarget : String := "id"

/-- A column's pointer to a column of another table, with the referential actions in lower case. -/
structure Reference where
  table : String
  schema : Option String
  column : Option String
  onDelete : Option String
  onUpdate : Option String
  deriving DecidableEq, Repr

/-- The referenced column. -/
def Reference.target (reference : Reference) : String :=
  reference.column.getD defaultTarget

/-- The referenced column, unless it is the usual one. -/
def Reference.key (reference : Reference) : Option String :=
  if reference.target = defaultTarget then none else some reference.target

/-- A column. Of several references only the first counts. -/
structure Column where
  name : String
  type : ColumnType
  primaryKey : Bool := false
  unique : Bool := false
  notNull : Bool := false
  autoIncrement : Bool := false
  defaultValue : Option DefaultValue := none
  references : List Reference := []
  deriving Repr

namespace Column

/-- Columns may be null unless they say otherwise. -/
def isNullable (column : Column) : Bool := !column.notNull

/-- A primary key that counts up by itself. -/
def isAutoIncrementKey (column : Column) : Bool := column.primaryKey && column.autoIncrement

/-- The reference that counts. -/
def foreignKey (column : Column) : Option Reference := column.references.head?

/-- Add a reference after the ones that are there. -/
def addReference (column : Column) (reference : Reference) : Column :=
  { column with references := column.references ++ [reference] }

end Column

/-- An index. -/
structure Index where
  name : Option String
  columns : List String
  unique : Bool
  kind : Option String
  deriving DecidableEq, Repr

/-- Whether the index is the primary key. -/
def Index.isPrimary (index : Index) : Bool :=
  index.kind == some "pk" || index.kind == some "primary"

/-- Primary keys are carried by the columns, so only other indexes are written. -/
def Index.isRenderable (index : Index) : Bool :=
  !index.columns.isEmpty && !index.isPrimary

/-- A table. -/
structure Table where
  name : String
  schema : String
  columns : List Column
  indexes : List Index
  deriving Repr

/-- The first column of a name. -/
def Table.column? (table : Table) (name : String) : Option Column :=
  table.columns.find? (·.name == name)

/-- An enumeration. -/
structure Enumeration where
  name : String
  values : List String
  deriving DecidableEq, Repr

end Schema

/-- Tables in the order of their declaration, and enumerations by the type name that columns use
for them. -/
structure Schema where
  tables : List Schema.Table := []
  enums : List (String × Schema.Enumeration) := []
  deriving Repr

namespace Schema

/-- The first table of a name. -/
def table? (schema : Schema) (name : String) : Option Table :=
  schema.tables.find? (·.name == name)

/-- The enumeration that a type stands for, if it does. -/
def enumFor (schema : Schema) (type : ColumnType) : Option Enumeration :=
  schema.enums.lookup type.name

end Schema

end SchemaScaffold
