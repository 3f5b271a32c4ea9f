import SchemaScaffold.Catalog.Basic
import SchemaScaffold.Catalog.Lenient
import SchemaScaffold.Json.Shape

/-!
# Catalogs read from JSON

Every record of a catalog has a blank form, so any of its fields may be missing. Names and notes
must be texts; flags and argument lists are read leniently.
-/

namespace SchemaScaffold.Catalog

open Json (RecordField Shaped readText readOptional readList readRecord)

/-- A lenient reader never fails. -/
def lenient {α : Type} (read : Json → α) (value : Json) : Shaped α := .ok (read value)

/-- Read a type name. -/
def TypeName.ofJson : Json → Shaped TypeName :=
  readRecord "TypeRecord"
    [.of "name" readText fun v r => { r with name := v },
     .of "schemaName" (readOptional readText) fun v r => { r with schemaName := v },
     .of "args" (lenient textList) fun v r => { r with args := v },
     .of "original" (readOptional readText) fun v r => { r with original := v }]
    {}

/-- Read a default value. -/
def Default.ofJson : Json → Shaped Default :=
  readRecord "DefaultRecord"
    [.of "value" (lenient id) fun v r => { r with value := v },
     .of "type" (readOptional readText) fun v r => { r with kind := v }]
    {}

/-- Read a column. -/
def Column.ofJson : Json → Shaped Column :=
  readRecord "ColumnRecord"
    [.of "name" readText fun v r => { r with name := v },
     .of "type" TypeName.ofJson fun v r => { r with type := v },
     .of "primaryKey" (lenient flag) fun v r => { r with primaryKey := v },
     .of "unique" (lenient flag) fun v r => { r with unique := v },
     .of "notNull" (lenient flag) fun v r => { r with notNull := v },
     .of "autoIncrement" (lenient flag) fun v r => { r with autoIncrement := v },
     .of "note" (readOptional readText) fun v r => { r with note := v },
     .of "defaultValue" (readOptional Default.ofJson) fun v r => { r with defaultValue := v }]
    {}

/-- The fields of an index column that is an object. -/
def IndexColumn.fields : List (RecordField (Option String × Option String)) :=
  [.of "name" (readOptional readText) fun v r => (v, r.2),
   .of "value" (readOptional readText) fun v r => (r.1, v)]

/-- Read an index column. Whatever keeps a value from being one, the message is the same. -/
def IndexColumn.ofJson : Json → Shaped IndexColumn
  | .string name => .ok (.bare name)
  | .object entries =>
    match Json.readByKey fields (none, none) entries with
    | .ok (name, value) => .ok (.described name value)
    | .error _ => .error (.noVariant "IndexColumn")
  | _ => .error (.noVariant "IndexColumn")

/-- Read an index. -/
def Index.ofJson : Json → Shaped Index :=
  readRecord "IndexRecord"
    [.of "name" (readOptional readText) fun v r => { r with name := v },
     .of "type" (readOptional readText) fun v r => { r with kind := v },
     .of "unique" (lenient flag) fun v r => { r with unique := v },
     .of "columns" (readList IndexColumn.ofJson) fun v r => { r with columns := v }]
    {}

/-- Read a table. -/
def Table.ofJson : Json → Shaped Table :=
  readRecord "TableRecord"
    [.of "name" readText fun v r => { r with name := v },
     .of "schema" (readOptional readText) fun v r => { r with schema := v },
     .of "note" (readOptional readText) fun v r => { r with note := v },
     .of "columns" (readList Column.ofJson) fun v r => { r with columns := v },
     .of "indexes" (readList Index.ofJson) fun v r => { r with indexes := v }]
    {}

/-- Read an enumeration. -/
def Enumeration.ofJson : Json → Shaped Enumeration :=
  readRecord "EnumRecord"
    [.of "name" readText fun v r => { r with name := v },
     .of "schema" (readOptional readText) fun v r => { r with schema := v },
     .of "values" (readList (lenient id)) fun v r => { r with values := v }]
    {}

/-- Read one end of a ref. -/
def Endpoint.ofJson : Json → Shaped Endpoint :=
  readRecord "EndpointRecord"
    [.of "schema" (readOptional readText) fun v r => { r with schema := v },
     .of "table" readText fun v r => { r with table := v },
     .of "columns" (lenient textList) fun v r => { r with columns := v },
     .of "relation" (readOptional readText) fun v r => { r with relation := v }]
    {}

/-- Read a ref. -/
def Ref.ofJson : Json → Shaped Ref :=
  readRecord "RefRecord"
    [.of "name" (readOptional readText) fun v r => { r with name := v },
     .of "schema" (readOptional readText) fun v r => { r with schema := v },
     .of "color" (readOptional readText) fun v r => { r with color := v },
     .of "onDelete" (readOptional readText) fun v r => { r with onDelete := v },
     .of "onUpdate" (readOptional readText) fun v r => { r with onUpdate := v },
     .of "endpoints" (readList Endpoint.ofJson) fun v r => { r with endpoints := v }]
    {}

/-- Read a catalog. -/
def ofJson : Json → Shaped Catalog :=
  readRecord "Catalog"
    [.of "tables" (readList Table.ofJson) fun v r => { r with tables := v },
     .of "enums" (readList Enumeration.ofJson) fun v r => { r with enums := v },
     .of "refs" (readList Ref.ofJson) fun v r => { r with refs := v }]
    {}

end SchemaScaffold.Catalog
