import SchemaScaffold.Convention
import SchemaScaffold.DefaultExpression
import SchemaScaffold.Storage
import SchemaScaffold.Stub

/-!
# Migrations

The migration of a table creates it column by column and index by index. A column is one
statement: the call that declares it, then modifiers, then, for a foreign key, the constraint,
which has to come last because what follows it no longer speaks of the column.
-/

namespace SchemaScaffold.Migration

open Php (Call)
open Schema (Table Column Reference Index)

/-- What stands before every statement. -/
def indent : String := "            "

/-- A statement about the table: a call and those chained to it. -/
def statement (calls : List Php.Call) : String := Php.chain "$table" calls

/-- The call that declares a foreign key. -/
def foreignCall (column : Column) : Call where
  method := if TypeFamily.ofName column.type.name = .uuid then "foreignUuid" else "foreignId"
  arguments := Php.literal column.name

/-- The constraint of a foreign key and what it does when the target changes. -/
def constraintCalls (reference : Reference) : List Call :=
  let target := Text.joined ", " ((reference.table :: reference.key.toList).map Php.literal)
  [{ method := "constrained", arguments := target }] ++
    ((reference.onDelete.bind ReferentialAction.ofText?).map
      fun action => { method := action.onDelete : Call }).toList ++
    ((reference.onUpdate.bind ReferentialAction.ofText?).map
      fun action => { method := action.onUpdate : Call }).toList

/-- The call that declares a column and the constraint that goes with it. A key that counts up
goes before all else, and an enumeration before a reference. -/
def declaration (column : Column) (schema : Schema) : Call × List Call :=
  if column.isAutoIncrementKey then
    ({ method := incrementsMethod column.type, arguments := Php.literal column.name }, [])
  else
    match schema.enumFor column.type, column.foreignKey with
    | none, some reference => (foreignCall column, constraintCalls reference)
    | enumeration, _ =>
      ((Storage.ofType column.type enumeration).directive column.name, [])

/-- The modifiers of a column, in the order in which they are written. -/
def modifiers (column : Column) : List Call :=
  (if column.isNullable && !column.primaryKey then [{ method := "nullable" }] else []) ++
  (column.defaultValue.map fun value =>
    { method := "default", arguments := value.expression : Call }).toList ++
  (if column.unique && !column.primaryKey then [{ method := "unique" }] else []) ++
  (if column.primaryKey && !column.autoIncrement then [{ method := "primary" }] else [])

/-- The statement that creates a column. -/
def columnStatement (column : Column) (schema : Schema) : String :=
  let (base, constraint) := declaration column schema
  statement (base :: modifiers column ++ constraint)

/-- The statement that creates an index. -/
def indexStatement (index : Index) : String :=
  statement
    [{ method := if index.unique then "unique" else "index"
       arguments := Text.joined ", "
         (Php.listLiteral index.columns :: (index.name.map Php.literal).toList) }]

/-- The statements for the columns. -/
def fields (table : Table) (schema : Schema) : String :=
  Text.joined "\n" (table.columns.map fun column => indent ++ columnStatement column schema)

/-- The statements for the indexes that are no primary keys. -/
def indexes (table : Table) : String :=
  String.join ((table.indexes.filter (·.isRenderable)).map fun index =>
    "\n" ++ indent ++ indexStatement index)

/-- The values for the places of the stub. -/
def placeValues (table : Table) (schema : Schema) : List (String × String) :=
  [("tableName", table.name), ("fields", fields table schema), ("indexes", indexes table)]

/-- A migration's name, without date and number, and its text. -/
structure Rendered where
  name : String
  contents : String
  deriving DecidableEq, Repr

/-- The migration of a table. -/
def render (loader : Stub.Loader) (schema : Schema) (table : Table) :
    Except RenderError Rendered := do
  let stub ← Stub.require loader .migration
  return { name := Convention.migrationName table.name
           contents := Stub.fill stub (placeValues table schema) }

end SchemaScaffold.Migration
