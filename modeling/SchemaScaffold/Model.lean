import SchemaScaffold.Relationship
import SchemaScaffold.Storage
import SchemaScaffold.Stub

/-!
# Model classes

The model of a table lists the columns that may be filled, the casts of the others and the
relationships. A table whose class would have a name that the language keeps for itself has no
model.
-/

namespace SchemaScaffold.Model

open Schema (Table)

/-- Columns that the framework looks after. -/
def managedColumns : List String := ["id", "created_at", "updated_at"]

/-- Names that no class may have, in any case. -/
def reservedNames : List String := [
  "Abstract", "And", "Array", "As", "Bool", "Boolean", "Break", "Callable", "Case", "Catch",
  "Class", "Clone", "Const", "Continue", "Declare", "Default", "Do", "Echo", "Else", "Elseif",
  "Empty", "Enum", "Eval", "Exit", "Extends", "False", "Final", "Finally", "Float", "Fn", "For",
  "Foreach", "Function", "Global", "Goto", "If", "Implements", "Include", "Instanceof",
  "Insteadof", "Int", "Interface", "Isset", "Iterable", "List", "Match", "Mixed", "Namespace",
  "Never", "New", "Null", "Object", "Or", "Parent", "Print", "Private", "Protected", "Public",
  "Readonly", "Require", "Resource", "Return", "Self", "Static", "String", "Switch", "Throw",
  "Trait", "True", "Try", "Unset", "Use", "Var", "Void", "While", "Xor", "Yield"]

/-- What stands between the items of a list in the class. -/
def itemSeparator : String := ",\n        "

/-- What stands between the members of the class. -/
def memberSeparator : String := "\n\n    "

/-- The class of a table. -/
def className (table : Table) : Except RenderError String :=
  let name := Convention.modelName table.name
  if reservedNames.any (Text.eqIgnoringAsciiCase · name) then
    .error (.reservedName table.name name)
  else .ok name

/-- A class has the name that the convention derives from the table. -/
theorem eq_modelName_of_className {table : Table} {name : String}
    (hclass : className table = .ok name) : name = Convention.modelName table.name := by
  simp only [className] at hclass
  split at hclass
  case isTrue => cases hclass
  case isFalse => exact (Except.ok.inj hclass).symm

/-- The property that names the table, which is left out when the framework would find the name
by itself. -/
def tableProperty (table className : String) : String :=
  if Convention.tableName className = table then ""
  else "protected $table = " ++ Php.literal table ++ ";" ++ memberSeparator

/-- The names of the columns that may be filled: neither keys nor looked after. -/
def fillableNames (table : Table) : List String :=
  (table.columns.filter fun column =>
    !column.primaryKey && !managedColumns.contains column.name).map (·.name)

/-- The items of the list of columns that may be filled. -/
def fillable (table : Table) : String :=
  Text.joined itemSeparator ((fillableNames table).map Php.literal)

/-- The columns with a cast that has to be written, and the casts. -/
def castPairs (table : Table) : List (String × Cast) :=
  table.columns.filterMap fun column =>
    ((Cast.ofType? column.type).filter fun cast => !cast.isTrivial).map fun cast =>
      (column.name, cast)

/-- The items of the list of casts. -/
def casts (table : Table) : String :=
  Text.joined itemSeparator ((castPairs table).map fun (column, cast) =>
    Php.literal column ++ " => " ++ Php.literal cast.name)

/-- The arguments that build a relationship. -/
def relationshipArguments (relationship : Relationship) : List String :=
  [relationship.model ++ "::class", Php.literal relationship.foreignKey] ++
    (relationship.key.map Php.literal).toList

/-- The method for a relationship. -/
def relationshipMethod (relationship : Relationship) : String :=
  "public function " ++ relationship.method ++ "()\n    \x7b\n        return $this->" ++
    relationship.kind.builder ++ "(" ++
    Text.joined ", " (relationshipArguments relationship) ++ ");\n    \x7d"

/-- The methods for all relationships. -/
def relationships (table : Table) (schema : Schema) : String :=
  Text.joined memberSeparator ((Relationship.all .eloquent table schema).map relationshipMethod)

/-- The values for the places of the stub. -/
def placeValues (table : Table) (schema : Schema) (className : String) :
    List (String × String) :=
  [("modelName", className),
   ("tableProperty", tableProperty table.name className),
   ("fillable", fillable table),
   ("casts", casts table),
   ("relations", relationships table schema)]

/-- A model class and its text. -/
structure Rendered where
  className : String
  contents : String
  deriving DecidableEq, Repr

/-- The model of a table. The name is looked at before the stub. -/
def render (loader : Stub.Loader) (schema : Schema) (table : Table) :
    Except RenderError Rendered := do
  let name ← className table
  let stub ← Stub.require loader .model
  return { className := name, contents := Stub.fill stub (placeValues table schema name) }

end SchemaScaffold.Model
