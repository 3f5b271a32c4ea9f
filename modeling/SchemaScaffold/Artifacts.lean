import SchemaScaffold.Catalog.OfText
import SchemaScaffold.Catalog.ToJson
import SchemaScaffold.Migration
import SchemaScaffold.Model
import SchemaScaffold.Schema.Link

/-!
# Everything for a schema, without a disk

Rendering goes table by table; what cannot be rendered is recorded with its table and keeps
nothing else from being rendered.
-/

namespace SchemaScaffold

/-- What was rendered for a table. -/
structure Artifacts where
  table : String
  model : Option Model.Rendered
  migration : Option Migration.Rendered
  errors : List RenderError
  deriving DecidableEq, Repr

namespace Artifacts

/-- Render a table. -/
def ofTable (loader : Stub.Loader) (schema : Schema) (table : Schema.Table) : Artifacts :=
  let model := Model.render loader schema table
  let migration := Migration.render loader schema table
  let failure {α : Type} : Except RenderError α → List RenderError
    | .ok _ => []
    | .error error => [error]
  { table := table.name
    model := model.toOption
    migration := migration.toOption
    errors := failure model ++ failure migration }

/-- Render all tables of a schema. -/
def ofSchema (loader : Stub.Loader) (schema : Schema) : List Artifacts :=
  schema.tables.map (ofTable loader schema)

/-- Write what was rendered as JSON. -/
def toJson (artifacts : Artifacts) : Json :=
  .object
    [("table", .string artifacts.table),
     ("modelName", Catalog.optionalText (artifacts.model.map (·.className))),
     ("model", Catalog.optionalText (artifacts.model.map (·.contents))),
     ("migrationName", Catalog.optionalText (artifacts.migration.map (·.name))),
     ("migration", Catalog.optionalText (artifacts.migration.map (·.contents))),
     ("errors", .array (artifacts.errors.map fun error => .string error.message))]

/-- From the text of a catalog to the JSON text of everything rendered with packaged stubs. -/
def renderText (text : String) : Except Catalog.ReadError String := do
  let catalog ← Catalog.ofText text
  let artifacts := ofSchema Stub.packagedLoader (Schema.ofCatalog catalog)
  return (Json.array (artifacts.map toJson)).render

end Artifacts

end SchemaScaffold
