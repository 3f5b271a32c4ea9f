import SchemaScaffold.Proofs.Catalog.Export
import SchemaScaffold.Proofs.Migration.Column
import SchemaScaffold.Proofs.Schema.Linking
import SchemaScaffold.Proofs.Stub.Rendering

/-!
# The values of enumeration columns

The type of a column names an enumeration, and it may name a schema for it. Enumerations are found
by their own names alone, and of several with one name the last that was declared hides the others.
So a column of such a type is created with the values of the last enumeration of that name in the
whole export, whichever schema its type names: the enumeration of this schema is the one that shows
if and only if the last one lists the same values. Keys that count up are created as such and list
no values.
-/

namespace SchemaScaffold

namespace Schema

/-- Of the enumerations with this name, this one is declared last. -/
def IsLastNamed (enums : List Catalog.Enumeration) (name : String) (last : Catalog.Enumeration) :
    Prop :=
  ∃ before after, enums = before ++ last :: after ∧ last.name = name ∧
    ∀ later ∈ after, later.name ≠ name

/-- The last enumeration with a name is the last of those that have it. -/
theorem isLastNamed_iff {enums : List Catalog.Enumeration} {name : String}
    {last : Catalog.Enumeration} :
    IsLastNamed enums name last ↔ (enums.filter (·.name = name)).getLast? = some last :=
  Keyed.getLast?_filter_eq_some_iff.symm

/-- Where some enumeration has a name, one of them is the last that has it. -/
theorem exists_isLastNamed {enums : List Catalog.Enumeration} {enumeration : Catalog.Enumeration}
    (hmem : enumeration ∈ enums) : ∃ last, IsLastNamed enums enumeration.name last := by
  have hnamed : enumeration ∈ enums.filter (·.name = enumeration.name) :=
    List.mem_filter.mpr ⟨hmem, decide_eq_true rfl⟩
  have hlast := List.getLast?_eq_some_getLast (List.ne_nil_of_mem hnamed)
  exact ⟨_, isLastNamed_iff.mpr hlast⟩

/-- A type stands for the last enumeration of its name. -/
theorem enumFor_ofCatalog {catalog : Catalog} {type : ColumnType} {last : Catalog.Enumeration}
    (hlast : IsLastNamed catalog.enums type.name last) :
    (ofCatalog catalog).enumFor type = some (.ofCatalog last) := by
  have hlookup := Keyed.lookup_foldl_put (·.name) Enumeration.ofCatalog catalog.enums [] type.name
  rw [isLastNamed_iff.mp hlast] at hlookup
  exact hlookup

end Schema

namespace Migration

open Php (Statement)
open Schema (Table Column Enumeration IsLastNamed ofCatalog)
open Stub (Undisturbed packagedLoader)

/-- The line, read back, creates the column as one of exactly these values. -/
def Enumerates (line column : String) (values : List String) : Prop :=
  ∃ statement ∈ Statement.ofText? line, statement.receiver = "table" ∧
    statement.calls.head? = some { method := "enum", arguments := [.text column, .texts values] }

/-- The line of a column whose type stands for an enumeration, unless the column is a key that
counts up: first the values of the enumeration, and then the modifiers. -/
theorem ofText?_columnStatement_of_enumFor {column : Column} {schema : Schema}
    {enumeration : Enumeration} (henum : schema.enumFor column.type = some enumeration)
    (hcounts : ¬(column.primaryKey = true ∧ column.autoIncrement = true)) :
    Statement.ofText? (columnStatement column schema) =
      some
        { receiver := "table"
          calls :=
            { method := "enum", arguments := [.text column.name, .texts enumeration.values] } ::
              modifierCalls column } := by
  have hforeign : ¬IsForeignKey column schema := by
    rintro ⟨-, hnone, -⟩
    rw [henum] at hnone
    cases hnone
  rw [ofText?_columnStatement_eq, calls, baseCall, if_neg hcounts, if_neg hforeign, henum,
    constraint, if_neg hforeign, List.append_nil]
  rfl

/-- Such a line lists the values of the enumeration and no others. -/
theorem enumerates_iff_of_enumFor {column : Column} {schema : Schema} {enumeration : Enumeration}
    (henum : schema.enumFor column.type = some enumeration)
    (hcounts : ¬(column.primaryKey = true ∧ column.autoIncrement = true)) (values : List String) :
    Enumerates (columnStatement column schema) column.name values ↔
      values = enumeration.values := by
  rw [Enumerates, ofText?_columnStatement_of_enumFor henum hcounts]
  simp [eq_comm]

/-- The line of a column stands among the statements of its table. -/
theorem infix_fields {table : Table} {column : Column} (hcolumn : column ∈ table.columns)
    (schema : Schema) :
    (indent ++ columnStatement column schema).toList <:+: (fields table schema).toList := by
  exact infix_joined "\n" (List.mem_map.mpr ⟨column, hcolumn, rfl⟩)

/-- The line of a column stands in the migration of its table, when no text of the table spells a
place of the stub. -/
theorem infix_render_packaged {schema : Schema} {table : Table} {column : Column}
    (htable : table ∈ schema.tables) (hcolumn : column ∈ table.columns)
    (hundisturbed : Undisturbed (placeValues table schema)) :
    ∃ rendered, .ok rendered ∈ schema.tables.map (render packagedLoader schema) ∧
      (indent ++ columnStatement column schema).toList <:+: rendered.contents.toList := by
  refine ⟨_, List.mem_map.mpr ⟨table, htable, render_packaged schema table⟩, ?_⟩
  have hplace : .place "fields" ∈
      Stub.cut ((placeValues table schema).map Prod.fst) Stub.packagedMigration :=
    clean_packagedMigration.present "fields" (by simp [placeNames])
  have hfields := Stub.valueOf_infix_fillAtOnce hplace
  have hvalue : Stub.valueOf (placeValues table schema) "fields" =
      (fields table schema).toList := by
    simp [Stub.valueOf, placeValues, List.lookup_cons]
  rw [hvalue] at hfields
  rw [(fill_placeValues_iff table schema).mpr hundisturbed]
  exact (infix_fields hcolumn schema).trans hfields

/-- A column of an export whose type has the name of a declared enumeration, and that is no key
which counts up, is created with exactly the values of the last enumeration of that name in the
export, in their order, whichever schemas declare enumerations of the name and whichever one its
type names. So it lists the values of any one of them, such as that of the schema its type names,
if and only if the last one has the same values. -/
theorem enumerates_last_of_export {database : Json} {catalog : Catalog}
    (hread : Catalog.ofExport database = .ok catalog) {own : Catalog.Enumeration}
    (hown : own ∈ Catalog.Export.enumerationsOf (Catalog.Export.list database "schemas"))
    {table : Table} {column : Column} (htable : table ∈ (ofCatalog catalog).tables)
    (hcolumn : column ∈ table.columns) (hname : column.type.name = own.name)
    (hcounts : ¬(column.primaryKey = true ∧ column.autoIncrement = true)) :
    ∃ last,
      IsLastNamed (Catalog.Export.enumerationsOf (Catalog.Export.list database "schemas"))
        column.type.name last ∧
      Statement.ofText? (columnStatement column (ofCatalog catalog)) =
        some
          { receiver := "table"
            calls :=
              { method := "enum"
                arguments :=
                  [.text column.name, .texts (last.values.map Catalog.scalarText)] } ::
                modifierCalls column } ∧
      (Enumerates (columnStatement column (ofCatalog catalog)) column.name
          (own.values.map Catalog.scalarText) ↔
        own.values.map Catalog.scalarText = last.values.map Catalog.scalarText) ∧
      (Undisturbed (placeValues table (ofCatalog catalog)) →
        ∃ rendered,
          .ok rendered ∈ (ofCatalog catalog).tables.map
            (render packagedLoader (ofCatalog catalog)) ∧
          (indent ++ columnStatement column (ofCatalog catalog)).toList <:+:
            rendered.contents.toList) := by
  have henums : catalog.enums =
      Catalog.Export.enumerationsOf (Catalog.Export.list database "schemas") := by
    rw [Catalog.Export.eq_of_ofExport hread]
  obtain ⟨last, hlast⟩ := Schema.exists_isLastNamed hown
  rw [← hname] at hlast
  have henum := Schema.enumFor_ofCatalog (henums ▸ hlast)
  refine ⟨last, hlast, ofText?_columnStatement_of_enumFor henum hcounts,
    enumerates_iff_of_enumFor henum hcounts _, infix_render_packaged htable hcolumn⟩

/-- Two schemas with an enumeration `status` each. The orders of the first one have a column whose
type is the `status` of their own schema. -/
def statusExport : Json :=
  let status (values : List String) : Json :=
    .object
      [("name", .string "status"),
       ("values", .array (values.map fun value => .object [("name", .string value)]))]
  let state : Json :=
    .object
      [("name", .string "state"),
       ("type", .object [("schemaName", .string "shop"), ("type_name", .string "status")])]
  .object
    [("schemas", .array
      [.object
        [("name", .string "shop"),
         ("tables", .array
          [.object [("name", .string "orders"), ("fields", .array [state])]]),
         ("enums", .array [status ["open", "paid"]])],
       .object
        [("name", .string "blog"),
         ("enums", .array [status ["draft", "live"]])]])]

/-- The state of the orders is created with the values of the other schema. -/
theorem state_lists_blog_values :
    ∃ catalog, Catalog.ofExport statusExport = .ok catalog ∧
      ∃ table ∈ (ofCatalog catalog).tables, ∃ column ∈ table.columns, ∃ own,
        own ∈ Catalog.Export.enumerationsOf (Catalog.Export.list statusExport "schemas") ∧
          column.type.schemaName = some "shop" ∧ own.schema = some "blog" ∧
          column.type.name = own.name ∧
          ¬(column.primaryKey = true ∧ column.autoIncrement = true) ∧
          Enumerates (columnStatement column (ofCatalog catalog)) column.name
            (own.values.map Catalog.scalarText) := by
  have hcounts : ¬(false = true ∧ false = true) := by decide
  have hread : Catalog.ofExport statusExport = .ok _ := rfl
  have hown : _ ∈ Catalog.Export.enumerationsOf (Catalog.Export.list statusExport "schemas") :=
    List.mem_cons_of_mem _ List.mem_cons_self
  obtain ⟨last, hlast, -, hlists, -⟩ :=
    enumerates_last_of_export hread hown List.mem_cons_self List.mem_cons_self rfl hcounts
  have hsame := Option.some.inj ((Schema.isLastNamed_iff.mp hlast).symm.trans rfl)
  exact ⟨_, hread, _, List.mem_cons_self, _, List.mem_cons_self, _, hown, rfl, rfl, rfl, hcounts,
    hlists.mpr (hsame ▸ rfl)⟩

/-- The state of the orders is not created with the values of its own schema, although no other
enumeration of this schema has the name. -/
theorem state_misses_shop_values :
    ∃ catalog, Catalog.ofExport statusExport = .ok catalog ∧
      ∃ table ∈ (ofCatalog catalog).tables, ∃ column ∈ table.columns, ∃ own,
        catalog.enums.filter (fun other => other.schema = some "shop" ∧ other.name = "status") =
            [own] ∧
          column.type.schemaName = some "shop" ∧ column.type.name = "status" ∧
          ¬Enumerates (columnStatement column (ofCatalog catalog)) column.name
            (own.values.map Catalog.scalarText) := by
  have hcounts : ¬(false = true ∧ false = true) := by decide
  refine ⟨_, rfl, _, List.mem_cons_self, _, List.mem_cons_self, _, rfl, rfl, rfl, fun hlists => ?_⟩
  have hvalues := (enumerates_iff_of_enumFor rfl hcounts _).mp hlists
  exact absurd hvalues (by decide)

end Migration

end SchemaScaffold
