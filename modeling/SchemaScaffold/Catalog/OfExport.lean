import SchemaScaffold.Catalog.Basic
import SchemaScaffold.Catalog.Lenient
import SchemaScaffold.Text.Separated

/-!
# Catalogs read from a database export

A database export nests everything in its schemas and promises nothing about the kinds of its
values, so each node is asked only for what is needed: an entry of another kind counts as missing.
Reading an export fails only when it has no list of schemas at all.
-/

namespace SchemaScaffold.Catalog

/-- Why a value is no database export. -/
inductive ExportError
  | notAnObject
  | missingSchemas
  deriving DecidableEq, Repr

/-- The words for an export error. -/
def ExportError.message : ExportError → String
  | notAnObject => "parser output is not a JSON object"
  | missingSchemas => "parser output has no `schemas` list"

namespace Export

/-- The items under a key. -/
def list (node : Json) (key : String) : List Json :=
  ((node.get? key).bind Json.items?).getD []

/-- The text under a key, unless it is empty. -/
def text? (node : Json) (key : String) : Option String :=
  ((node.get? key).bind Json.text?).filter (· ≠ "")

/-- Whether `true` stands under a key. -/
def isSet (node : Json) (key : String) : Bool :=
  ((node.get? key).bind Json.bool?).getD false

/-- A note: a text, or an object with the text under `value`. -/
def note? (node : Json) : Option String :=
  match node.get? "note" with
  | some (.string text) => if text = "" then none else some text
  | some (.object entries) => (entries.lookup "value").bind Json.text?
  | _ => none

/-- Split a declaration such as `decimal(10,2)` into the name and the arguments behind it. -/
def splitDeclaration (declared : String) : String × List String :=
  match Text.cutOnce '(' declared.toList with
  | none => (Text.trim declared, [])
  | some (name, rest) =>
    let inner := Text.dropTrailing (· == ')') (Text.dropTrailing Text.isBlank rest)
    (String.ofList (Text.trimChars name), Text.commaItems (String.ofList inner))

/-- Read a type: a declaration, or an object that holds one next to explicit arguments, which
count when there are any. -/
def type : Json → TypeName
  | .object entries =>
    let node := Json.object entries
    let declared :=
      (((node.get? "type_name").or (node.get? "typeName")).map scalarText).getD ""
    let (name, inline) := splitDeclaration declared
    let explicit := ((node.get? "args").map textList).getD []
    { name
      schemaName := (node.get? "schemaName").bind Json.text?
      args := if explicit.isEmpty then inline else explicit
      original := ((node.get? "originalTypeName").bind Json.text?).or
        (if declared = "" then none else some declared) }
  | other =>
    let (name, args) := splitDeclaration (scalarText other)
    { name, args }

/-- The kind that a default gets by the JSON value it is. -/
def kindOf : Json → String
  | .bool _ => "boolean"
  | .number _ => "number"
  | .string _ => "string"
  | _ => "object"

/-- Read a default: nothing for `null`, an object as value and kind, and any other value with
the kind it has. -/
def default? : Json → Option Default
  | .null => none
  | .object entries =>
    some { value := (entries.lookup "value").getD .null
           kind := (entries.lookup "type").bind Json.text? }
  | other => some { value := other, kind := some (kindOf other) }

/-- Read a field of a table as a column. -/
def column (field : Json) : Column where
  name := (text? field "name").getD ""
  type := type ((field.get? "type").getD .null)
  primaryKey := isSet field "pk"
  unique := isSet field "unique"
  notNull := isSet field "not_null"
  autoIncrement := isSet field "increment"
  note := note? field
  defaultValue := default? ((field.get? "dbdefault").getD .null)

/-- The name of an index column: an object names it as its value or as its name. -/
def indexColumn : Json → IndexColumn
  | .object entries =>
    .bare ((((entries.lookup "value").or (entries.lookup "name")).map scalarText).getD "")
  | other => .bare (scalarText other)

/-- Read an index. A primary-key index says so by a flag. -/
def index (node : Json) : Index :=
  let kind := if isSet node "pk" then some "pk" else text? node "type"
  { name := text? node "name"
    kind
    unique := kind == some "unique" || isSet node "unique"
    columns := (list node "columns").map indexColumn }

/-- Read a table. -/
def table (schema : Option String) (node : Json) : Table where
  name := (text? node "name").getD ""
  schema
  note := note? node
  columns := (list node "fields").map column
  indexes := (list node "indexes").map index

/-- The value of an enumeration: an object names it; `null` is none. -/
def enumValue? : Json → Option Json
  | .null => none
  | .object entries =>
    ((entries.lookup "name").or (entries.lookup "value")).filter fun value => !value.isNull
  | other => some other

/-- Read an enumeration. -/
def enumeration (schema : Option String) (node : Json) : Enumeration where
  name := (text? node "name").getD ""
  schema
  values := (list node "values").filterMap enumValue?

/-- Read one end of a ref. It lies in the schema around it unless it names another. -/
def endpoint (schema : Option String) (node : Json) : Endpoint where
  schema := (text? node "schemaName").or schema
  table := (text? node "tableName").getD ""
  columns := ((node.get? "fieldNames").map textList).getD []
  relation := (node.get? "relation").map scalarText

/-- Read a ref. -/
def ref (schema : Option String) (node : Json) : Ref where
  name := text? node "name"
  schema
  color := text? node "color"
  onDelete := text? node "onDelete"
  onUpdate := text? node "onUpdate"
  endpoints := (list node "endpoints").map (endpoint schema)

/-- Append what one schema declares to what was read so far. -/
def addSchema (catalog : Catalog) (node : Json) : Catalog :=
  let name := text? node "name"
  { tables := catalog.tables ++ (list node "tables").map (table name)
    enums := catalog.enums ++ (list node "enums").map (enumeration name)
    refs := catalog.refs ++ (list node "refs").map (ref name) }

end Export

/-- Read a database export. -/
def ofExport (database : Json) : Except ExportError Catalog :=
  match database.entries? with
  | none => .error .notAnObject
  | some entries =>
    match (entries.lookup "schemas").bind Json.items? with
    | none => .error .missingSchemas
    | some schemas => .ok (schemas.foldl Export.addSchema {})

end SchemaScaffold.Catalog
