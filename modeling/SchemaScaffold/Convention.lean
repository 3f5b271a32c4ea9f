import SchemaScaffold.Inflection
import SchemaScaffold.Text.Ending
import SchemaScaffold.Text.Words

/-!
# Naming conventions

Tables are named in the plural and in snake case, classes in the singular and in camel case. The
functions that lead from one to the other are gathered in one value, so that what is built from
them can be studied for any choice of names.
-/

namespace SchemaScaffold

/-- How names are derived from the names of tables and columns. -/
structure Convention where
  /-- The class for a table. -/
  model : String → String
  /-- The accessor for the one row that a column points to, by the table it points to. -/
  belongsTo : String → String
  /-- The accessor for the rows that point here, by the table they are in. -/
  hasMany : String → String
  /-- The accessor for the one row that a column points to, by the column. -/
  column : String → String

namespace Convention

/-- `blog_posts` becomes `BlogPost`. -/
def modelName (table : String) : String :=
  Text.upperCamelCase (Inflection.singular (Text.snakeCase table))

/-- The table that the framework expects for a class: `BlogPost` becomes `blog_posts`. -/
def tableName (model : String) : String :=
  Text.snakeCase (Inflection.plural (Text.snakeCase model))

/-- `users` becomes `user`. -/
def belongsToMethod (table : String) : String :=
  Text.lowerCamelCase (Inflection.singular (Text.snakeCase table))

/-- `blog_posts` becomes `blogPosts`. -/
def hasManyMethod (table : String) : String :=
  Text.lowerCamelCase (Inflection.plural (Inflection.singular (Text.snakeCase table)))

/-- Drop the ending `_id`, unless nothing else would be left. -/
def withoutId (name : String) : String :=
  match Text.withoutEnding? "_id" name with
  | some stem => if stem = "" then name else stem
  | none => name

/-- `author_id` becomes `author`. -/
def columnMethod (column : String) : String :=
  Text.lowerCamelCase (withoutId (Text.snakeCase column))

/-- `BlogPosts` becomes `create_blog_posts_table`. -/
def migrationName (table : String) : String :=
  "create_" ++ Text.snakeCase table ++ "_table"

/-- The conventions of the framework. -/
def eloquent : Convention where
  model := modelName
  belongsTo := belongsToMethod
  hasMany := hasManyMethod
  column := columnMethod

example : tableName (modelName "user_statuses") = "user_statuses" := by decide +kernel

end Convention

end SchemaScaffold
