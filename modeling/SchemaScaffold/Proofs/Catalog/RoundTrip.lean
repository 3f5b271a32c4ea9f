import SchemaScaffold.Catalog.ToJson
import SchemaScaffold.Proofs.Catalog.Settled

/-!
# Written catalogs read back

A record is written with an entry for each of its fields, in the order in which the fields are
read, so it reads back when every entry does. Only the lists of arguments and columns ask for more:
they have to be settled. As whatever was read is settled, reading a catalog once leaves nothing for
a second reading to change.
-/

namespace SchemaScaffold.Catalog

open Json (readText readOptional readList readInOrder readInOrder_cons readRecord)

/-- An object with an entry for each field, in their order, reads as the values do. -/
theorem readRecord_object {σ : Type} {label : String} {fields : List (Json.RecordField σ)}
    {blank record : σ} {entries : List (String × Json)} (values : List Json)
    (hkeys : (fields.map (·.key)).Nodup) (hentries : (fields.map (·.key)).zip values = entries)
    (hread : readInOrder fields blank values = .ok record) :
    readRecord label fields blank (.object entries) = .ok record := by
  rw [← hentries]
  exact (Json.readByKey_zip hkeys blank values).trans hread

/-- An optional text reads back. -/
theorem readOptional_optionalText (text : Option String) :
    readOptional readText (optionalText text) = .ok text := by
  cases text <;> rfl

/-- A settled list of texts reads back. -/
theorem lenient_textList {items : List String} (hitems : ∀ item ∈ items, Text.IsItem item) :
    lenient textList (.array (items.map .string)) = .ok items :=
  congrArg Except.ok (textList_of_items hitems)

/-- A settled type name reads back, with or without its original text. -/
theorem TypeName.ofJson_toJson {type : TypeName} (hsettled : type.Settled) :
    TypeName.ofJson type.toJson = .ok type := by
  obtain ⟨name, schemaName, args, original⟩ := type
  have hargs := lenient_textList hsettled
  cases original with
  | none =>
      refine readRecord_object
        [.string name, optionalText schemaName, .array (args.map .string)] ?_ rfl ?_
      · simp [Json.RecordField.of]
      · refine readInOrder_cons rfl ?_
        refine readInOrder_cons (readOptional_optionalText schemaName) ?_
        refine readInOrder_cons hargs ?_
        rfl
  | some text =>
      refine readRecord_object
        [.string name, optionalText schemaName, .array (args.map .string), .string text] ?_ rfl ?_
      · simp [Json.RecordField.of]
      · refine readInOrder_cons rfl ?_
        refine readInOrder_cons (readOptional_optionalText schemaName) ?_
        refine readInOrder_cons hargs ?_
        exact readInOrder_cons (readOptional_optionalText (some text)) rfl

/-- A default reads back, whatever its value is. -/
theorem Default.ofJson_toJson (default : Default) :
    Default.ofJson default.toJson = .ok default := by
  refine readRecord_object [default.value, optionalText default.kind] ?_ rfl ?_
  · simp [Json.RecordField.of]
  · refine readInOrder_cons rfl ?_
    exact readInOrder_cons (readOptional_optionalText default.kind) rfl

/-- An optional default reads back: no default is written like `null`. -/
theorem readOptional_default (default : Option Default) :
    readOptional Default.ofJson ((default.map Default.toJson).getD .null) = .ok default := by
  cases default with
  | none => rfl
  | some default => exact Json.readOptional_some rfl (Default.ofJson_toJson default)

/-- A column with a settled type reads back. -/
theorem Column.ofJson_toJson {column : Column} (hsettled : column.type.Settled) :
    Column.ofJson column.toJson = .ok column := by
  refine readRecord_object
    [.string column.name, column.type.toJson, .bool column.primaryKey, .bool column.unique,
      .bool column.notNull, .bool column.autoIncrement, optionalText column.note,
      (column.defaultValue.map Default.toJson).getD .null] ?_ rfl ?_
  · simp [Json.RecordField.of]
  · refine readInOrder_cons rfl ?_
    refine readInOrder_cons (TypeName.ofJson_toJson hsettled) ?_
    refine readInOrder_cons rfl ?_
    refine readInOrder_cons rfl ?_
    refine readInOrder_cons rfl ?_
    refine readInOrder_cons rfl ?_
    refine readInOrder_cons (readOptional_optionalText column.note) ?_
    exact readInOrder_cons (readOptional_default column.defaultValue) rfl

/-- An index column reads back in the form in which it stands. -/
theorem IndexColumn.ofJson_toJson (column : IndexColumn) :
    IndexColumn.ofJson column.toJson = .ok column := by
  cases column with
  | bare name => rfl
  | described name value =>
      have hkeys : (fields.map (·.key)).Nodup := by simp [fields, Json.RecordField.of]
      have hread : Json.readByKey fields (none, none)
          [("name", optionalText name), ("value", optionalText value)] = .ok (name, value) := by
        refine (Json.readByKey_zip hkeys (none, none) [optionalText name, optionalText value]).trans
          ?_
        refine readInOrder_cons (readOptional_optionalText name) ?_
        exact readInOrder_cons (readOptional_optionalText value) rfl
      rw [toJson, IndexColumn.ofJson, hread]

/-- An index reads back. -/
theorem Index.ofJson_toJson (index : Index) : Index.ofJson index.toJson = .ok index := by
  refine readRecord_object
    [optionalText index.name, optionalText index.kind, .bool index.unique,
      .array (index.columns.map IndexColumn.toJson)] ?_ rfl ?_
  · simp [Json.RecordField.of]
  · refine readInOrder_cons (readOptional_optionalText index.name) ?_
    refine readInOrder_cons (readOptional_optionalText index.kind) ?_
    refine readInOrder_cons rfl ?_
    have hcolumns := Json.readList_map fun column (_ : column ∈ index.columns) =>
      IndexColumn.ofJson_toJson column
    exact readInOrder_cons hcolumns rfl

/-- A settled table reads back. -/
theorem Table.ofJson_toJson {table : Table} (hsettled : table.Settled) :
    Table.ofJson table.toJson = .ok table := by
  refine readRecord_object
    [.string table.name, optionalText table.schema, optionalText table.note,
      .array (table.columns.map Column.toJson), .array (table.indexes.map Index.toJson)] ?_ rfl ?_
  · simp [Json.RecordField.of]
  · refine readInOrder_cons rfl ?_
    refine readInOrder_cons (readOptional_optionalText table.schema) ?_
    refine readInOrder_cons (readOptional_optionalText table.note) ?_
    have hcolumns := Json.readList_map fun column hcolumn =>
      Column.ofJson_toJson (hsettled column hcolumn)
    refine readInOrder_cons hcolumns ?_
    have hindexes := Json.readList_map fun index (_ : index ∈ table.indexes) =>
      Index.ofJson_toJson index
    exact readInOrder_cons hindexes rfl

/-- An enumeration reads back, whatever its values are. -/
theorem Enumeration.ofJson_toJson (enumeration : Enumeration) :
    Enumeration.ofJson enumeration.toJson = .ok enumeration := by
  refine readRecord_object
    [.string enumeration.name, optionalText enumeration.schema, .array enumeration.values] ?_ rfl ?_
  · simp [Json.RecordField.of]
  · refine readInOrder_cons rfl ?_
    refine readInOrder_cons (readOptional_optionalText enumeration.schema) ?_
    have hvalues := Json.readList_map (fun value (_ : value ∈ enumeration.values) =>
      (rfl : lenient id (id value) = .ok value))
    rw [List.map_id] at hvalues
    exact readInOrder_cons hvalues rfl

/-- A settled endpoint reads back. -/
theorem Endpoint.ofJson_toJson {endpoint : Endpoint} (hsettled : endpoint.Settled) :
    Endpoint.ofJson endpoint.toJson = .ok endpoint := by
  refine readRecord_object
    [optionalText endpoint.schema, .string endpoint.table,
      .array (endpoint.columns.map .string), optionalText endpoint.relation] ?_ rfl ?_
  · simp [Json.RecordField.of]
  · refine readInOrder_cons (readOptional_optionalText endpoint.schema) ?_
    refine readInOrder_cons rfl ?_
    refine readInOrder_cons (lenient_textList hsettled) ?_
    exact readInOrder_cons (readOptional_optionalText endpoint.relation) rfl

/-- A settled ref reads back. -/
theorem Ref.ofJson_toJson {ref : Ref} (hsettled : ref.Settled) :
    Ref.ofJson ref.toJson = .ok ref := by
  refine readRecord_object
    [optionalText ref.name, optionalText ref.schema, optionalText ref.color,
      optionalText ref.onDelete, optionalText ref.onUpdate,
      .array (ref.endpoints.map Endpoint.toJson)] ?_ rfl ?_
  · simp [Json.RecordField.of]
  · refine readInOrder_cons (readOptional_optionalText ref.name) ?_
    refine readInOrder_cons (readOptional_optionalText ref.schema) ?_
    refine readInOrder_cons (readOptional_optionalText ref.color) ?_
    refine readInOrder_cons (readOptional_optionalText ref.onDelete) ?_
    refine readInOrder_cons (readOptional_optionalText ref.onUpdate) ?_
    have hendpoints := Json.readList_map fun endpoint hendpoint =>
      Endpoint.ofJson_toJson (hsettled endpoint hendpoint)
    exact readInOrder_cons hendpoints rfl

/-- A settled catalog reads back from its own form. -/
theorem ofJson_toJson {catalog : Catalog} (hsettled : catalog.Settled) :
    ofJson catalog.toJson = .ok catalog := by
  refine readRecord_object
    [.array (catalog.tables.map Table.toJson), .array (catalog.enums.map Enumeration.toJson),
      .array (catalog.refs.map Ref.toJson)] ?_ rfl ?_
  · simp [Json.RecordField.of]
  · have htables := Json.readList_map fun table htable =>
      Table.ofJson_toJson (hsettled.tables table htable)
    refine readInOrder_cons htables ?_
    have henums := Json.readList_map fun enumeration (_ : enumeration ∈ catalog.enums) =>
      Enumeration.ofJson_toJson enumeration
    refine readInOrder_cons henums ?_
    have hrefs := Json.readList_map fun ref href => Ref.ofJson_toJson (hsettled.refs ref href)
    exact readInOrder_cons hrefs rfl

/-- An object with tables and without schemas is read as a catalog in its own form. -/
theorem ofValue_of_tables {entries : List (String × Json)}
    (hschemas : entries.lookup "schemas" = none) (htables : (entries.lookup "tables").isSome) :
    ofValue (.object entries) = (ofJson (.object entries)).mapError .misshapen := by
  simp [ofValue, Json.entries?, hschemas, htables]

/-- A settled catalog reads back, as what is written is recognised by its tables. -/
theorem ofValue_toJson {catalog : Catalog} (hsettled : catalog.Settled) :
    ofValue catalog.toJson = .ok catalog := by
  have hread := ofJson_toJson hsettled
  unfold toJson at hread ⊢
  rw [ofValue_of_tables (by simp [List.lookup_cons]) (by simp), hread]
  rfl

/-- What was read, from an export or from a catalog in its own form, reads back from the form in
which it is written. -/
theorem ofValue_toJson_of_ofValue {value : Json} {catalog : Catalog}
    (hread : ofValue value = .ok catalog) : ofValue catalog.toJson = .ok catalog :=
  ofValue_toJson (settled_of_ofValue hread)

/-- A catalog written leniently: arguments in one text, a number for a flag, a default that is no
scalar, index columns of both kinds, and an index without a name. -/
def lenientSource : Json :=
  .object [("tables", .array [.object
    [("name", .string "items"),
     ("columns", .array [.object
       [("name", .string "price"),
        ("type", .object [("name", .string "decimal"), ("args", .string " 10, ,2 ")]),
        ("notNull", .number (.integer 1)),
        ("defaultValue", .object [("value", .array [.null])])]]),
     ("indexes", .array [.object
       [("name", .null),
        ("columns", .array [.string "price", .object [("value", .string "lower(x)")]])]])]])]

/-- What the lenient form says. -/
def lenientCatalog : Catalog :=
  { tables :=
      [{ name := "items"
         columns :=
           [{ name := "price"
              type := { name := "decimal", args := ["10", "2"] }
              notNull := true
              defaultValue := some { value := .array [.null] } }]
         indexes := [{ columns := [.bare "price", .described none (some "lower(x)")] }] }] }

/-- An export with a declared type, a bare default and a ref. -/
def exportSource : Json :=
  .object [("schemas", .array [.object
    [("name", .string "shop"),
     ("tables", .array [.object
       [("name", .string "items"),
        ("fields", .array [.object
          [("name", .string "price"),
           ("type", .string "decimal(10, 2)"),
           ("dbdefault", .bool true)]])]]),
     ("refs", .array [.object
       [("endpoints", .array [.object
         [("tableName", .string "items"),
          ("fieldNames", .string " a,b "),
          ("relation", .string "*")]])]])]])]

/-- What the export says. -/
def exportCatalog : Catalog :=
  { tables :=
      [{ name := "items"
         schema := some "shop"
         columns :=
           [{ name := "price"
              type := { name := "decimal", args := ["10", "2"] }
              defaultValue := some { value := .bool true, kind := some "boolean" } }] }]
    refs :=
      [{ schema := some "shop"
         endpoints :=
           [{ schema := some "shop", table := "items", columns := ["a", "b"]
              relation := some "*" }] }] }

/-- Both forms read back from what is written of them. -/
theorem ofValue_toJson_sources :
    (ofValue lenientSource = .ok lenientCatalog ∧
      ofValue lenientCatalog.toJson = .ok lenientCatalog) ∧
    (ofValue exportSource = .ok exportCatalog ∧
      ofValue exportCatalog.toJson = .ok exportCatalog) := by
  have hlenient : ofValue lenientSource = .ok lenientCatalog := rfl
  have hexport : ofValue exportSource = .ok exportCatalog := rfl
  exact ⟨⟨hlenient, ofValue_toJson_of_ofValue hlenient⟩,
    ⟨hexport, ofValue_toJson_of_ofValue hexport⟩⟩

end SchemaScaffold.Catalog
