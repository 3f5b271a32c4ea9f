import SchemaScaffold.Proofs.Schema.Linking
import SchemaScaffold.Proofs.Text.Caseless

/-!
# Where the references of a column come from

Every reference of a column was left there by a ref whose many side names the column. The name is
looked up as one text, the schema, the table and the column joined by points, so what the look-up
makes sure of is that the joined names differ in case only. The parts need not: a ref can reach a
column of another table when points in the names of schemas and tables make up for each other. This
module tells each reference by its origin, and says exactly when the ref means the column part by
part. It always does as long as the names of schemas and tables hold no points; those of columns
may.
-/

namespace SchemaScaffold.Schema

/-- What a reference of a column comes from: a ref with its two sides, and the name on the many
side that was looked up. -/
structure Origin where
  ref : Catalog.Ref
  many : Catalog.Endpoint
  one : Catalog.Endpoint
  name : String
  deriving DecidableEq, Repr

namespace Origin

/-- The reference that is left. -/
def reference (origin : Origin) : Reference := .ofRef origin.ref origin.one

/-- The schema that the many side names. -/
def schema (origin : Origin) : String := origin.many.schema.getD "public"

/-- The many side means the column: schema, table and column are each named up to case. -/
structure Means (origin : Origin) (table : Table) (column : Column) : Prop where
  schema : Text.caseless origin.schema = Text.caseless table.schema
  table : Text.caseless origin.many.table = Text.caseless table.name
  column : Text.caseless origin.name = Text.caseless column.name

end Origin

/-- What a ref leaves at a slot: an origin for each name that leads there. -/
def originsOf (tables : List Catalog.Table) (slot : Slot) (ref : Catalog.Ref) : List Origin :=
  match sides? ref with
  | some (many, one) => (namesOf tables slot many).map fun name => { ref, many, one, name }
  | none => []

/-- The origins of the references of the column at a slot. -/
def originsAt (catalog : Catalog) (slot : Slot) : List Origin :=
  catalog.refs.flatMap (originsOf catalog.tables slot)

/-- Every reference of a column has its origin, in the same order. -/
theorem referencesAt_eq_map_originsAt (catalog : Catalog) (slot : Slot) :
    referencesAt catalog slot = (originsAt catalog slot).map (·.reference) := by
  rw [referencesAt, originsAt, List.map_flatMap]
  congr 1
  funext ref
  rw [refReferences, originsOf]
  cases sides? ref with
  | none => rfl
  | some sides => rw [List.map_map]; rfl

/-- An origin at a slot is a ref of the catalog, and a name on its many side that leads there. -/
theorem mem_originsAt {catalog : Catalog} {slot : Slot} {origin : Origin} :
    origin ∈ originsAt catalog slot ↔
      origin.ref ∈ catalog.refs ∧ sides? origin.ref = some (origin.many, origin.one) ∧
        origin.name ∈ origin.many.columns ∧
        IsLastSlot catalog.tables (Text.toLower
          (origin.schema ++ "." ++ origin.many.table ++ "." ++ origin.name)) slot := by
  obtain ⟨ref, many, one, name⟩ := origin
  simp only [originsAt, List.mem_flatMap, Origin.schema]
  constructor
  · rintro ⟨found, hfound, hmem⟩
    unfold originsOf at hmem
    split at hmem
    case h_2 => cases hmem
    case h_1 hsides =>
      obtain ⟨_, hname, hsame⟩ := List.mem_map.mp hmem
      cases hsame
      obtain ⟨hcolumn, hlast⟩ := List.mem_filter.mp hname
      exact ⟨hfound, hsides, hcolumn, of_decide_eq_true hlast⟩
  · rintro ⟨hfound, hsides, hcolumn, hlast⟩
    refine ⟨ref, hfound, ?_⟩
    rw [originsOf, hsides]
    exact List.mem_map.mpr
      ⟨name, List.mem_filter.mpr ⟨hcolumn, decide_eq_true hlast⟩, rfl⟩

/-- The references of a linked column are told by their origins, one for one. Each origin is a ref
of the catalog that names a column on its many side, and this name means the column part by part if
and only if as many points stand in the name of its schema, and as many in the name of its table, as
in those of the column. -/
theorem means_iff_points (catalog : Catalog) (slot : Slot) (table : Table) (column : Column)
    (htable : (ofCatalog catalog).tables[slot.table]? = some table)
    (hcolumn : table.columns[slot.column]? = some column) :
    column.references = (originsAt catalog slot).map (·.reference) ∧
      ∀ origin ∈ originsAt catalog slot,
        origin.ref ∈ catalog.refs ∧ sides? origin.ref = some (origin.many, origin.one) ∧
        origin.name ∈ origin.many.columns ∧
        (origin.Means table column ↔
          Text.points origin.schema = Text.points table.schema ∧
            Text.points origin.many.table = Text.points table.name) := by
  obtain ⟨record, hrecord, rfl⟩ := exists_record_of_table htable
  obtain ⟨declared, hdeclared, rfl⟩ := exists_record_of_column hcolumn
  refine ⟨referencesAt_eq_map_originsAt catalog slot, fun origin horigin => ?_⟩
  obtain ⟨href, hsides, hname, ⟨found, foundColumn, hfound, hfoundColumn, hkey⟩, -⟩ :=
    mem_originsAt.mp horigin
  refine ⟨href, hsides, hname, ?_⟩
  obtain rfl : record = found := Option.some.inj (hrecord.symm.trans hfound)
  obtain rfl : declared = foundColumn := Option.some.inj (hdeclared.symm.trans hfoundColumn)
  refine Iff.trans ⟨fun hmeans => ?_, fun hparts => ?_⟩ (Text.caseless_parts_iff hkey.symm)
  · exact ⟨hmeans.schema, hmeans.table, hmeans.column⟩
  · exact ⟨hparts.1, hparts.2.1, hparts.2.2⟩

/-- Orders in the schema `shop.eu`, and a ref that speaks of `eu.orders` in the schema `shop`, which
is no table of the catalog. -/
def strayOrders : Catalog where
  tables :=
    [{ name := "orders", schema := some "shop.eu", columns := [{ name := "customer_id" }] },
     { name := "customers", schema := some "shop", columns := [{ name := "id" }] }]
  refs :=
    [{ endpoints :=
        [{ schema := some "shop", table := "eu.orders", columns := ["customer_id"]
           relation := some "*" },
         { schema := some "shop", table := "customers", columns := ["id"]
           relation := some "1" }] }]

/-- The ref leaves its reference at the orders, although it does not mean them. -/
theorem orders_reached_unmeant :
    ∃ (table : Table) (column : Column) (origin : Origin),
      (ofCatalog strayOrders).tables[0]? = some table ∧ table.columns[0]? = some column ∧
        column.references = [origin.reference] ∧ origin.ref ∈ strayOrders.refs ∧
        ¬origin.Means table column := by
  have htable : (ofCatalog strayOrders).tables[0]? =
      (strayOrders.tables.mapIdx (linkedTable strayOrders))[0]? := by
    rw [tables_ofCatalog]
  have hone : (originsAt strayOrders ⟨0, 0⟩).length = 1 := by decide +kernel
  obtain ⟨origin, horigin⟩ := List.length_eq_one_iff.mp hone
  have happart : ∀ origin ∈ originsAt strayOrders ⟨0, 0⟩,
      Text.points origin.schema ≠ Text.points "shop.eu" := by
    decide +kernel
  obtain ⟨hreferences, hall⟩ := means_iff_points strayOrders ⟨0, 0⟩ _ _ htable rfl
  have hmem : origin ∈ originsAt strayOrders ⟨0, 0⟩ := horigin ▸ List.mem_singleton_self origin
  obtain ⟨href, -, -, hmeans⟩ := hall origin hmem
  refine ⟨_, _, origin, htable, rfl, ?_, href, fun h => happart origin hmem (hmeans.mp h).1⟩
  rw [hreferences, horigin, List.map_singleton]

end SchemaScaffold.Schema
