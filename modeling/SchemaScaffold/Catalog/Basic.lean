import SchemaScaffold.Json.Basic

/-!
# Catalogs

A catalog is what a parser of schema text hands over: tables with their columns and indexes,
enumerations, and refs between columns, all in one flat list each and tagged with the schema they
were declared in. Nothing is resolved yet; a ref names its tables and columns by text.
-/

namespace SchemaScaffold.Catalog

/-- A column type as it was declared: its name, the arguments behind it, and the text it was
declared with. -/
structure TypeName where
  name : String := ""
  schemaName : Option String := none
  args : List String := []
  original : Option String := none
  deriving DecidableEq, Repr, Inhabited

/-- A default value and the kind it was declared with. -/
structure Default where
  value : Json := .null
  kind : Option String := none
  deriving Repr, Inhabited

/-- A column of a table. -/
structure Column where
  name : String := ""
  type : TypeName := {}
  primaryKey : Bool := false
  unique : Bool := false
  notNull : Bool := false
  autoIncrement : Bool := false
  note : Option String := none
  defaultValue : Option Default := none
  deriving Repr, Inhabited

/-- A column of an index: its bare name, or an object that may carry a name or an expression. -/
inductive IndexColumn
  | bare (name : String)
  | described (name value : Option String)
  deriving DecidableEq, Repr

/-- The name of an index column, empty when it carries none. -/
def IndexColumn.columnName : IndexColumn → String
  | bare name => name
  | described name value => (name.or value).getD ""

/-- An index of a table. -/
structure Index where
  name : Option String := none
  kind : Option String := none
  unique : Bool := false
  columns : List IndexColumn := []
  deriving DecidableEq, Repr, Inhabited

/-- A table. -/
structure Table where
  name : String := ""
  schema : Option String := none
  note : Option String := none
  columns : List Column := []
  indexes : List Index := []
  deriving Repr, Inhabited

/-- An enumeration; its values may be of any kind. -/
structure Enumeration where
  name : String := ""
  schema : Option String := none
  values : List Json := []
  deriving Repr, Inhabited

/-- One end of a ref: the columns of a table, and how many rows take part on this side. -/
structure Endpoint where
  schema : Option String := none
  table : String := ""
  columns : List String := []
  relation : Option String := none
  deriving DecidableEq, Repr, Inhabited

/-- A relation between columns of two tables, with what happens when the target row goes. -/
structure Ref where
  name : Option String := none
  schema : Option String := none
  color : Option String := none
  onDelete : Option String := none
  onUpdate : Option String := none
  endpoints : List Endpoint := []
  deriving DecidableEq, Repr, Inhabited

end SchemaScaffold.Catalog

namespace SchemaScaffold

/-- All that a parser found. -/
structure Catalog where
  tables : List Catalog.Table := []
  enums : List Catalog.Enumeration := []
  refs : List Catalog.Ref := []
  deriving Repr, Inhabited

end SchemaScaffold
