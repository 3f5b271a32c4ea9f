import SchemaScaffold.Proofs.Catalog.Export
import SchemaScaffold.Proofs.Migration.Column
import SchemaScaffold.Proofs.Schema.Linking

/-!
# The primary key of a migration

A column is part of the primary key when its line counts it up or calls it primary. That is so
exactly for the columns that are primary keys by their own records: the lines say nothing else, and
linking hands the flag of each record on. A catalog can name a primary key in another way, by an
index that is primary, and such indexes have no line of their own because the columns are thought to
carry the key. Nothing carries it over, however. Dropping all primary indexes from a catalog leaves
every migration as it was, and the columns that a primary index names are written as the primary key
if and only if each of them is one by its own record.
-/

namespace SchemaScaffold.Catalog

/-- The index is the primary key of its table. -/
def Index.IsPrimary (index : Index) : Prop :=
  index.kind = some "pk" ∨ index.kind = some "primary"

instance (index : Index) : Decidable index.IsPrimary := inferInstanceAs (Decidable (_ ∨ _))

/-- The names of the columns of an index. -/
def Index.names (index : Index) : List String := index.columns.map (·.columnName)

/-- The columns that the primary indexes of a table name are primary keys by their own records. -/
def FlagsPrimaryIndexes (catalog : Catalog) : Prop :=
  ∀ table ∈ catalog.tables, ∀ index ∈ table.indexes, index.IsPrimary →
    ∀ column ∈ table.columns, column.name ∈ index.names → column.primaryKey = true

/-- A table without its primary indexes. -/
def Table.withoutPrimaryIndexes (table : Table) : Table :=
  { table with indexes := table.indexes.filter fun index => ¬index.IsPrimary }

/-- A catalog without the primary indexes of its tables. -/
def withoutPrimaryIndexes (catalog : Catalog) : Catalog :=
  { catalog with tables := catalog.tables.map Table.withoutPrimaryIndexes }

namespace Export

/-- The fields that the primary indexes of a table name are flagged as primary keys themselves. An
index is primary by its own flag or by its type. -/
def FlagsPrimaryIndexes (database : Json) : Prop :=
  ∀ schema ∈ list database "schemas", ∀ table ∈ list schema "tables",
    ∀ index ∈ list table "indexes",
      (isSet index "pk" = true ∨ text? index "type" = some "pk" ∨
        text? index "type" = some "primary") →
      ∀ field ∈ list table "fields",
        (text? field "name").getD "" ∈ (Export.index index).names → isSet field "pk" = true

/-- An index of an export is primary by its own flag or by its type. -/
theorem isPrimary_index_iff (node : Json) :
    (Export.index node).IsPrimary ↔ isSet node "pk" = true ∨ text? node "type" = some "pk" ∨
      text? node "type" = some "primary" := by
  unfold Index.IsPrimary Export.index
  by_cases hset : isSet node "pk" = true
  · simp [hset]
  · simp [hset]

/-- In a catalog that was read from an export, the columns of primary indexes are primary keys by
their own records if and only if their fields are flagged so. -/
theorem flagsPrimaryIndexes_iff {database : Json} {catalog : Catalog}
    (hread : ofExport database = .ok catalog) :
    catalog.FlagsPrimaryIndexes ↔ FlagsPrimaryIndexes database := by
  unfold Catalog.FlagsPrimaryIndexes FlagsPrimaryIndexes
  simp only [eq_of_ofExport hread, tablesOf, List.forall_mem_flatMap, List.forall_mem_map,
    Export.table, isPrimary_index_iff, Export.column]

end Export

end SchemaScaffold.Catalog

namespace SchemaScaffold.Schema

/-- Names lead to the same columns with and without the primary indexes. -/
theorem isLastSlot_withoutPrimaryIndexes (tables : List Catalog.Table) (key : String)
    (slot : Slot) :
    IsLastSlot (tables.map Catalog.Table.withoutPrimaryIndexes) key slot ↔
      IsLastSlot tables key slot := by
  have hbears (slot : Slot) :
      Bears (tables.map Catalog.Table.withoutPrimaryIndexes) slot key ↔ Bears tables slot key := by
    unfold Bears
    rw [List.getElem?_map]
    cases tables[slot.table]? with
    | none => simp only [Option.map_none, reduceCtorEq, false_and, exists_false]
    | some table =>
        simp only [Option.map_some, Option.some.injEq, exists_and_left, exists_eq_left']
        rfl
  simp only [IsLastSlot, hbears]

/-- Columns have the same references with and without the primary indexes. -/
theorem referencesAt_withoutPrimaryIndexes (catalog : Catalog) (slot : Slot) :
    referencesAt catalog.withoutPrimaryIndexes slot = referencesAt catalog slot := by
  have hnames (many : Catalog.Endpoint) :
      namesOf catalog.withoutPrimaryIndexes.tables slot many =
        namesOf catalog.tables slot many := by
    simp only [namesOf, Catalog.withoutPrimaryIndexes, isLastSlot_withoutPrimaryIndexes]
  have hreferences (ref : Catalog.Ref) :
      refReferences catalog.withoutPrimaryIndexes.tables slot ref =
        refReferences catalog.tables slot ref := by
    simp only [refReferences, hnames]
  exact congrArg (catalog.refs.flatMap ·) (funext hreferences)

/-- Tables have the same columns with and without the primary indexes. -/
theorem columns_linkedTable_withoutPrimaryIndexes (catalog : Catalog) (position : Nat)
    (record : Catalog.Table) :
    (linkedTable catalog.withoutPrimaryIndexes position record.withoutPrimaryIndexes).columns =
      (linkedTable catalog position record).columns := by
  simp only [linkedTable, linkedColumn, referencesAt_withoutPrimaryIndexes]
  rfl

/-- No primary index is written. -/
theorem not_isRenderable_of_isPrimary {record : Catalog.Index} {index : Index}
    (hindex : Index.ofCatalog? record = some index) (hprimary : record.IsPrimary) :
    index.isRenderable = false := by
  have hkind : index.kind = record.kind := by
    simp only [Index.ofCatalog?] at hindex
    split at hindex
    · cases hindex
    · cases hindex
      rfl
  have hkey : index.isPrimary = true := by
    rw [Index.isPrimary, hkind]
    rcases hprimary with hpk | hprimary
    · rw [hpk]
      rfl
    · rw [hprimary]
      rfl
  rw [Index.isRenderable, hkey, Bool.not_true, Bool.and_false]

/-- Without the primary indexes a table keeps all indexes that are written. -/
theorem renderable_linkedTable_withoutPrimaryIndexes (catalog : Catalog) (position : Nat)
    (record : Catalog.Table) :
    (linkedTable catalog.withoutPrimaryIndexes position
        record.withoutPrimaryIndexes).indexes.filter (·.isRenderable) =
      (linkedTable catalog position record).indexes.filter (·.isRenderable) := by
  simp only [indexes_linkedTable, Catalog.Table.withoutPrimaryIndexes, List.filterMap_filter,
    List.filter_filterMap]
  congr 1
  funext record
  by_cases hprimary : record.IsPrimary
  · simp only [hprimary, not_true_eq_false, decide_false, Bool.false_eq_true, if_false]
    refine (Option.filter_eq_none_iff.mpr fun index hindex => ?_).symm
    exact Bool.eq_false_iff.mp (not_isRenderable_of_isPrimary hindex hprimary)
  · simp only [hprimary, not_false_eq_true, decide_true, if_true]

end SchemaScaffold.Schema

namespace SchemaScaffold.Migration

open Php (MethodCall Statement)
open Schema (Table Column Slot ofCatalog linkedTable linkedColumn)

/-- The methods that make a column part of the primary key: those of keys that count up, and the
one that says so. -/
def keyMethods : List String :=
  ["increments", "bigIncrements", "smallIncrements", "tinyIncrements", "mediumIncrements",
    "primary"]

/-- A line, read back, makes its column part of the primary key. -/
def DeclaresKey (line : String) : Prop :=
  ∃ statement ∈ Statement.ofText? line, ∃ call ∈ statement.calls, call.method ∈ keyMethods

/-- A column is declared by a method of keys exactly when it counts up. -/
theorem baseCall_method_mem_keyMethods_iff (column : Column) (schema : Schema) :
    (baseCall column schema).method ∈ keyMethods ↔
      column.primaryKey = true ∧ column.autoIncrement = true := by
  have hincrements : incrementsMethod column.type ∈ keyMethods := by
    unfold incrementsMethod
    split <;> decide
  have hstorage (storage : Storage) : storage.method ∉ keyMethods := by
    cases storage <;> simp only [Storage.method] <;> decide
  have hid : "foreignId" ∉ keyMethods := by decide
  have huuid : "foreignUuid" ∉ keyMethods := by decide
  rcases baseCall_method_cases column schema with
    ⟨hkey, hmethod⟩ | ⟨hforeign, hmethod | hmethod⟩ | ⟨hkey, -, storage, hmethod⟩
  · rw [hmethod]
    exact iff_of_true hincrements hkey
  · rw [hmethod]
    exact iff_of_false hid hforeign.1
  · rw [hmethod]
    exact iff_of_false huuid hforeign.1
  · rw [hmethod]
    exact iff_of_false (hstorage storage) hkey

/-- Among the modifiers of a column is a method of keys exactly when it is a primary key that does
not count up. -/
theorem exists_modifier_mem_keyMethods_iff (column : Column) :
    (∃ call ∈ modifierCalls column, call.method ∈ keyMethods) ↔
      column.primaryKey = true ∧ column.autoIncrement = false := by
  have hnullable : "nullable" ∉ keyMethods := by decide
  have hdefault : "default" ∉ keyMethods := by decide
  have hunique : "unique" ∉ keyMethods := by decide
  have hprimary : "primary" ∈ keyMethods := by decide
  constructor
  · rintro ⟨call, hcall, hmethod⟩
    obtain rfl | ⟨default, rfl⟩ | rfl | ⟨hkey, rfl⟩ := modifier_cases hcall
    · exact absurd hmethod hnullable
    · exact absurd hmethod hdefault
    · exact absurd hmethod hunique
    · exact hkey
  · intro hkey
    refine ⟨{ method := "primary" }, ?_, hprimary⟩
    rw [modifierCalls, if_pos hkey]
    exact List.mem_append_right _ (List.mem_singleton_self _)

/-- No method of keys stands in a constraint. -/
theorem method_not_mem_keyMethods_of_mem_constraint {column : Column} {schema : Schema}
    {call : MethodCall} (hcall : call ∈ constraint column schema) : call.method ∉ keyMethods := by
  have hconstrained : "constrained" ∉ keyMethods := by decide
  simp only [constraint, List.mem_ite_nil_right, List.mem_flatMap, referenceCalls,
    List.mem_append, List.mem_singleton, List.mem_map] at hcall
  obtain ⟨-, reference, -, (rfl | ⟨action, -, rfl⟩) | ⟨action, -, rfl⟩⟩ := hcall
  · exact hconstrained
  · cases action <;> decide
  · cases action <;> decide

/-- The line of a column makes it part of the primary key exactly when it is flagged so. -/
theorem declaresKey_columnStatement_iff (column : Column) (schema : Schema) :
    DeclaresKey (columnStatement column schema) ↔ column.primaryKey = true := by
  have hbase := baseCall_method_mem_keyMethods_iff column schema
  have hmodifiers := exists_modifier_mem_keyMethods_iff column
  unfold DeclaresKey
  rw [ofText?_columnStatement_eq]
  constructor
  · rintro ⟨_, hsame, call, hcall, hmethod⟩
    cases hsame
    simp only [calls, List.mem_append, List.mem_cons] at hcall
    rcases hcall with (rfl | hmodifier) | hconstraint
    · exact (hbase.mp hmethod).1
    · exact (hmodifiers.mp ⟨call, hmodifier, hmethod⟩).1
    · exact absurd hmethod (method_not_mem_keyMethods_of_mem_constraint hconstraint)
  · intro hkey
    refine ⟨_, rfl, ?_⟩
    cases hcounts : column.autoIncrement with
    | true => exact ⟨_, List.mem_append_left _ List.mem_cons_self, hbase.mpr ⟨hkey, hcounts⟩⟩
    | false =>
        obtain ⟨call, hcall, hmethod⟩ := hmodifiers.mpr ⟨hkey, hcounts⟩
        exact ⟨call, List.mem_append_left _ (List.mem_cons_of_mem _ hcall), hmethod⟩

/-- The migrations of all tables, in their order. -/
def renderAll (loader : Stub.Loader) (schema : Schema) : List (Except RenderError Rendered) :=
  schema.tables.map (render loader schema)

/-- The columns that the primary indexes of a table name have lines that make them part of the
primary key. -/
def KeepsPrimaryIndexes (catalog : Catalog) : Prop :=
  ∀ (position : Nat) (record : Catalog.Table) (table : Table),
    catalog.tables[position]? = some record → (ofCatalog catalog).tables[position]? = some table →
      ∀ index ∈ record.indexes, index.IsPrimary →
        ∀ column ∈ table.columns, column.name ∈ index.names →
          DeclaresKey (columnStatement column (ofCatalog catalog))

/-- A table has the same migration with and without the primary indexes of its catalog. -/
theorem render_withoutPrimaryIndexes (loader : Stub.Loader) (catalog : Catalog) (position : Nat)
    (record : Catalog.Table) :
    render loader (ofCatalog catalog.withoutPrimaryIndexes)
        (linkedTable catalog.withoutPrimaryIndexes position record.withoutPrimaryIndexes) =
      render loader (ofCatalog catalog) (linkedTable catalog position record) := by
  have henums : (ofCatalog catalog.withoutPrimaryIndexes).enums = (ofCatalog catalog).enums := rfl
  have hname : (linkedTable catalog.withoutPrimaryIndexes position
      record.withoutPrimaryIndexes).name = (linkedTable catalog position record).name := rfl
  simp only [render, placeValues, fields, indexes, hname, columnStatement_congr henums,
    Schema.columns_linkedTable_withoutPrimaryIndexes,
    Schema.renderable_linkedTable_withoutPrimaryIndexes]

/-- A catalog has the same migrations with and without its primary indexes. -/
theorem renderAll_withoutPrimaryIndexes (loader : Stub.Loader) (catalog : Catalog) :
    renderAll loader (ofCatalog catalog.withoutPrimaryIndexes) =
      renderAll loader (ofCatalog catalog) := by
  apply List.ext_getElem?
  intro position
  simp only [renderAll, Schema.tables_ofCatalog, List.getElem?_map, List.getElem?_mapIdx,
    Catalog.withoutPrimaryIndexes]
  cases catalog.tables[position]? with
  | none => rfl
  | some record => exact congrArg some (render_withoutPrimaryIndexes loader catalog position record)

/-- The lines carry the primary indexes of a catalog exactly when the records of the columns do. -/
theorem keepsPrimaryIndexes_iff_flags (catalog : Catalog) :
    KeepsPrimaryIndexes catalog ↔ catalog.FlagsPrimaryIndexes := by
  constructor
  · intro hkeeps record hrecord index hindex hprimary declared hdeclared hname
    obtain ⟨position, hposition⟩ := List.mem_iff_getElem?.mp hrecord
    obtain ⟨columnPosition, hcolumnPosition⟩ := List.mem_iff_getElem?.mp hdeclared
    have htable : (ofCatalog catalog).tables[position]? =
        some (linkedTable catalog position record) := by
      rw [Schema.tables_ofCatalog, List.getElem?_mapIdx, hposition, Option.map_some]
    have hcolumn : linkedColumn catalog ⟨position, columnPosition⟩ declared ∈
        (linkedTable catalog position record).columns := by
      refine List.mem_of_getElem? (i := columnPosition) ?_
      rw [linkedTable, List.getElem?_mapIdx, hcolumnPosition, Option.map_some]
    have hline := hkeeps position record _ hposition htable index hindex hprimary _ hcolumn hname
    exact (declaresKey_columnStatement_iff _ _).mp hline
  · intro hflags position record table hposition htable index hindex hprimary column hcolumn hname
    obtain ⟨found, hfound, rfl⟩ := Schema.exists_record_of_table htable
    obtain rfl : record = found := Option.some.inj (hposition.symm.trans hfound)
    obtain ⟨columnPosition, hcolumnPosition⟩ := List.mem_iff_getElem?.mp hcolumn
    obtain ⟨declared, hdeclared, rfl⟩ := Schema.exists_record_of_column hcolumnPosition
    have hflag := hflags record (List.mem_of_getElem? hposition) index hindex hprimary declared
      (List.mem_of_getElem? hdeclared) hname
    exact (declaresKey_columnStatement_iff _ _).mpr hflag

/-- No migration shows which primary indexes its catalog has. So the columns that they name are
written as part of the primary key if and only if they are flagged so by their own records, and for
a catalog that was read from an export, if and only if their fields are. -/
theorem keepsPrimaryIndexes_iff (catalog : Catalog) :
    (∀ loader, renderAll loader (ofCatalog catalog.withoutPrimaryIndexes) =
        renderAll loader (ofCatalog catalog)) ∧
      (KeepsPrimaryIndexes catalog ↔ catalog.FlagsPrimaryIndexes) ∧
      ∀ database, Catalog.ofExport database = .ok catalog →
        (KeepsPrimaryIndexes catalog ↔ Catalog.Export.FlagsPrimaryIndexes database) := by
  refine ⟨fun loader => renderAll_withoutPrimaryIndexes loader catalog,
    keepsPrimaryIndexes_iff_flags catalog, fun database hread => ?_⟩
  exact (keepsPrimaryIndexes_iff_flags catalog).trans
    (Catalog.Export.flagsPrimaryIndexes_iff hread)

/-- An export whose only table has the key of two columns as an index, and no flag at them. -/
def membershipsExport : Json :=
  let field (name : String) : Json :=
    .object [("name", .string name), ("type", .string "bigint"), ("not_null", .bool true)]
  let keyed (name : String) : Json := .object [("value", .string name)]
  .object
    [("schemas", .array
      [.object
        [("name", .string "public"),
         ("tables", .array
          [.object
            [("name", .string "memberships"),
             ("fields", .array [field "user_id", field "team_id"]),
             ("indexes", .array
              [.object
                [("pk", .bool true),
                 ("columns", .array [keyed "user_id", keyed "team_id"])]])]])]])]

/-- The export is read, and the migration does not have the key. -/
theorem memberships_key_lost :
    ∃ catalog, Catalog.ofExport membershipsExport = .ok catalog ∧ ¬KeepsPrimaryIndexes catalog := by
  have hflags : ¬Catalog.Export.FlagsPrimaryIndexes membershipsExport := by
    unfold Catalog.Export.FlagsPrimaryIndexes
    decide +kernel
  refine ⟨_, rfl, fun hkeeps => hflags ?_⟩
  exact ((keepsPrimaryIndexes_iff _).2.2 membershipsExport rfl).mp hkeeps

end SchemaScaffold.Migration
