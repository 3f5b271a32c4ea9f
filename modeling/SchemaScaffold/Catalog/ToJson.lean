import SchemaScaffold.Catalog.Basic

/-!
# Catalogs written as JSON

The form in which a catalog is exchanged: every field under its key, `null` for what is missing.
Only the original text of a type is left out when there is none.
-/

namespace SchemaScaffold.Catalog

/-- A text, or `null` when it is missing. -/
def optionalText : Option String → Json
  | some text => .string text
  | none => .null

/-- Write a type name. -/
def TypeName.toJson (type : TypeName) : Json :=
  .object <|
    [("name", .string type.name),
     ("schemaName", optionalText type.schemaName),
     ("args", .array (type.args.map .string))] ++
    match type.original with
    | some text => [("original", .string text)]
    | none => []

/-- Write a default value. -/
def Default.toJson (default : Default) : Json :=
  .object [("value", default.value), ("type", optionalText default.kind)]

/-- Write a column. -/
def Column.toJson (column : Column) : Json :=
  .object
    [("name", .string column.name),
     ("type", column.type.toJson),
     ("primaryKey", .bool column.primaryKey),
     ("unique", .bool column.unique),
     ("notNull", .bool column.notNull),
     ("autoIncrement", .bool column.autoIncrement),
     ("note", optionalText column.note),
     ("defaultValue", (column.defaultValue.map Default.toJson).getD .null)]

/-- Write an index column. -/
def IndexColumn.toJson : IndexColumn → Json
  | bare name => .string name
  | described name value => .object [("name", optionalText name), ("value", optionalText value)]

/-- Write an index. -/
def Index.toJson (index : Index) : Json :=
  .object
    [("name", optionalText index.name),
     ("type", optionalText index.kind),
     ("unique", .bool index.unique),
     ("columns", .array (index.columns.map IndexColumn.toJson))]

/-- Write a table. -/
def Table.toJson (table : Table) : Json :=
  .object
    [("name", .string table.name),
     ("schema", optionalText table.schema),
     ("note", optionalText table.note),
     ("columns", .array (table.columns.map Column.toJson)),
     ("indexes", .array (table.indexes.map Index.toJson))]

/-- Write an enumeration. -/
def Enumeration.toJson (enumeration : Enumeration) : Json :=
  .object
    [("name", .string enumeration.name),
     ("schema", optionalText enumeration.schema),
     ("values", .array enumeration.values)]

/-- Write one end of a ref. -/
def Endpoint.toJson (endpoint : Endpoint) : Json :=
  .object
    [("schema", optionalText endpoint.schema),
     ("table", .string endpoint.table),
     ("columns", .array (endpoint.columns.map .string)),
     ("relation", optionalText endpoint.relation)]

/-- Write a ref. -/
def Ref.toJson (ref : Ref) : Json :=
  .object
    [("name", optionalText ref.name),
     ("schema", optionalText ref.schema),
     ("color", optionalText ref.color),
     ("onDelete", optionalText ref.onDelete),
     ("onUpdate", optionalText ref.onUpdate),
     ("endpoints", .array (ref.endpoints.map Endpoint.toJson))]

/-- Write a catalog. -/
def toJson (catalog : Catalog) : Json :=
  .object
    [("tables", .array (catalog.tables.map Table.toJson)),
     ("enums", .array (catalog.enums.map Enumeration.toJson)),
     ("refs", .array (catalog.refs.map Ref.toJson))]

end SchemaScaffold.Catalog
