import Mathlib.Data.List.Forall2
import SchemaScaffold.Proofs.Catalog.Export

/-!
# Nothing lost and nothing invented

Every object with a list of schemas is read, whatever is in that list, and reading follows its
nesting: a schema gives one table, enumeration and ref for each of its nodes, a table one column and
index, an index one column, and a ref one end, all in their order. Only the values of an enumeration
may be fewer than their nodes, for those that come to `null` are left out. Lists of schemas may
therefore be read apart and put together afterwards.

The relations below say this of the nodes and the records alone. Which text a name, a note or a type
has is left to the readers of single nodes.
-/

namespace SchemaScaffold.Catalog

/-- One catalog behind another. -/
instance : Append Catalog :=
  ⟨fun first second =>
    { tables := first.tables ++ second.tables
      enums := first.enums ++ second.enums
      refs := first.refs ++ second.refs }⟩

namespace Export

/-- The elements under a key of a node. A key that is missing or leads to no array has none, and so
has every key of a node that is no object. -/
inductive Holds (node : Json) (key : String) : List Json → Prop
  | array {elements : List Json} (hfound : node.get? key = some (.array elements)) :
      Holds node key elements
  | none (hnone : ∀ elements, node.get? key ≠ some (.array elements)) : Holds node key []

/-- The text that a node gives under a key, if it is one and not empty. -/
def Gives (node : Json) (key : String) (given : Option String) : Prop :=
  ∀ text, given = some text ↔ text ≠ "" ∧ node.get? key = some (.string text)

/-- The value that a value of an enumeration comes to: the one under the name of an object or else
under its value, and any other value is meant by itself. -/
inductive ComesTo : Json → Json → Prop
  | named {entries : List (String × Json)} {value : Json}
      (hname : entries.lookup "name" = some value) : ComesTo (.object entries) value
  | valued {entries : List (String × Json)} {value : Json}
      (hname : entries.lookup "name" = none) (hvalue : entries.lookup "value" = some value) :
      ComesTo (.object entries) value
  | bare {entries : List (String × Json)} (hname : entries.lookup "name" = none)
      (hvalue : entries.lookup "value" = none) : ComesTo (.object entries) .null
  | plain {value : Json} (hplain : value.entries? = none) : ComesTo value value

/-- The records are read from the elements under a key, one from each and in their order. -/
def ReadsEach {ρ : Type} (Reads : Json → ρ → Prop) (node : Json) (key : String)
    (records : List ρ) : Prop :=
  ∃ elements, Holds node key elements ∧ List.Forall₂ Reads elements records

/-- An index is read from a node. -/
structure IndexOf (node : Json) (read : Index) : Prop where
  own : read = index node
  columns : ReadsEach (indexColumn · = ·) node "columns" read.columns

/-- A table is read from a node in a schema. -/
structure TableOf (schema : Option String) (node : Json) (read : Table) : Prop where
  own : read = table schema node
  within : read.schema = schema
  columns : ReadsEach (column · = ·) node "fields" read.columns
  indexes : ReadsEach IndexOf node "indexes" read.indexes

/-- An enumeration is read from a node in a schema; of its values only `null`s are left out. -/
structure EnumerationOf (schema : Option String) (node : Json) (read : Enumeration) : Prop where
  own : read = enumeration schema node
  within : read.schema = schema
  values : ∃ values, ReadsEach ComesTo node "values" values ∧
    read.values = values.filter fun value => !value.isNull

/-- One end of a ref is read from a node. It lies in the schema that the node names, if it names
any, and otherwise in the one around the ref, if that has a name. -/
structure EndpointOf (schema : Option String) (node : Json) (read : Endpoint) : Prop where
  own : read = endpoint schema node
  within : ∃ named, Gives node "schemaName" named ∧ read.schema = named.or schema

/-- A ref is read from a node in a schema. -/
structure RefOf (schema : Option String) (node : Json) (read : Ref) : Prop where
  own : read = ref schema node
  within : read.schema = schema
  endpoints : ReadsEach (EndpointOf schema) node "endpoints" read.endpoints

/-- The part of a catalog that is read from a schema. -/
def PartOf (node : Json) (part : Catalog) : Prop :=
  ∃ schema, Gives node "name" schema ∧
    ReadsEach (TableOf schema) node "tables" part.tables ∧
    ReadsEach (EnumerationOf schema) node "enums" part.enums ∧
    ReadsEach (RefOf schema) node "refs" part.refs

/-- A catalog is made of what is read from the schemas, one after another. -/
def MadeOf (schemas : List Json) (catalog : Catalog) : Prop :=
  ∃ parts, List.Forall₂ PartOf schemas parts ∧ catalog = parts.foldr (· ++ ·) {}

/-- The value is an object with this list of schemas. -/
def Exports (schemas : List Json) (database : Json) : Prop :=
  ∃ entries, database = .object entries ∧ entries.lookup "schemas" = some (.array schemas)

/-- The elements under a key are those that the list of the key holds. -/
theorem holds_list (node : Json) (key : String) : Holds node key (list node key) := by
  rw [list]
  cases hfound : node.get? key with
  | none => exact .none (by simp [hfound])
  | some value =>
      cases value with
      | array elements => exact .array hfound
      | _ => exact .none (by simp [hfound])

/-- The text under a key is given by the node. -/
theorem gives_text? (node : Json) (key : String) : Gives node key (text? node key) := by
  intro text
  rw [text?, Option.filter_eq_some_iff, Option.bind_eq_some_iff, decide_eq_true_eq, and_comm]
  apply and_congr_right
  intro _
  constructor
  · rintro ⟨value, hfound, htext⟩
    cases value with
    | string found => rw [hfound, Option.some.inj htext]
    | _ => cases htext
  · intro hfound
    exact ⟨_, hfound, rfl⟩

/-- A reader of single elements reads the list under a key one by one. -/
theorem readsEach_map {ρ : Type} {Reads : Json → ρ → Prop} (reader : Json → ρ)
    (hreads : ∀ element, Reads element (reader element)) (node : Json) (key : String) :
    ReadsEach Reads node key ((list node key).map reader) := by
  refine ⟨list node key, holds_list node key, ?_⟩
  rw [List.forall₂_map_right_iff]
  exact List.forall₂_same.mpr fun element _ => hreads element

/-- Each value of an enumeration is read as what it comes to, unless that is `null`. -/
theorem exists_comesTo (node : Json) :
    ∃ value, ComesTo node value ∧
      enumValue? node = if value.isNull then none else some value := by
  cases node with
  | null => exact ⟨_, .plain rfl, rfl⟩
  | bool _ | number _ | string _ | array _ => exact ⟨_, .plain rfl, rfl⟩
  | object entries =>
      rw [enumValue?]
      cases hname : entries.lookup "name" with
      | some value =>
          refine ⟨value, .named hname, ?_⟩
          cases value <;> rfl
      | none =>
          cases hvalue : entries.lookup "value" with
          | some value =>
              refine ⟨value, .valued hname hvalue, ?_⟩
              cases value <;> rfl
          | none => exact ⟨.null, .bare hname hvalue, rfl⟩

/-- The values of an enumeration are what the elements come to, without the `null`s. -/
theorem exists_forall₂_comesTo (elements : List Json) :
    ∃ values, List.Forall₂ ComesTo elements values ∧
      elements.filterMap enumValue? = values.filter fun value => !value.isNull := by
  induction elements with
  | nil => exact ⟨[], .nil, rfl⟩
  | cons element rest ih =>
      obtain ⟨value, hvalue, hread⟩ := exists_comesTo element
      obtain ⟨values, hvalues, hrest⟩ := ih
      refine ⟨value :: values, .cons hvalue hvalues, ?_⟩
      rw [List.filterMap_cons, hread, List.filter_cons, hrest]
      cases value.isNull <;> rfl

/-- Every node is read as an index. -/
theorem indexOf_index (node : Json) : IndexOf node (index node) where
  own := rfl
  columns := readsEach_map indexColumn (fun _ => rfl) node "columns"

/-- Every node is read as a table. -/
theorem tableOf_table (schema : Option String) (node : Json) :
    TableOf schema node (table schema node) where
  own := rfl
  within := rfl
  columns := readsEach_map column (fun _ => rfl) node "fields"
  indexes := readsEach_map index indexOf_index node "indexes"

/-- Every node is read as an enumeration. -/
theorem enumerationOf_enumeration (schema : Option String) (node : Json) :
    EnumerationOf schema node (enumeration schema node) where
  own := rfl
  within := rfl
  values := by
    obtain ⟨values, hvalues, hread⟩ := exists_forall₂_comesTo (list node "values")
    exact ⟨values, ⟨_, holds_list node "values", hvalues⟩, hread⟩

/-- Every node is read as one end of a ref. -/
theorem endpointOf_endpoint (schema : Option String) (node : Json) :
    EndpointOf schema node (endpoint schema node) where
  own := rfl
  within := ⟨_, gives_text? node "schemaName", rfl⟩

/-- Every node is read as a ref. -/
theorem refOf_ref (schema : Option String) (node : Json) : RefOf schema node (ref schema node) where
  own := rfl
  within := rfl
  endpoints := readsEach_map (endpoint schema) (endpointOf_endpoint schema) node "endpoints"

/-- What one schema declares is a part of the catalog. -/
theorem partOf_catalogOf (node : Json) : PartOf node (catalogOf [node]) := by
  refine ⟨text? node "name", gives_text? node "name", ?_, ?_, ?_⟩
  · show ReadsEach _ node "tables" (tablesOf [node])
    rw [tablesOf, List.flatMap_singleton]
    exact readsEach_map (table _) (tableOf_table _) node "tables"
  · show ReadsEach _ node "enums" (enumerationsOf [node])
    rw [enumerationsOf, List.flatMap_singleton]
    exact readsEach_map (enumeration _) (enumerationOf_enumeration _) node "enums"
  · show ReadsEach _ node "refs" (refsOf [node])
    rw [refsOf, List.flatMap_singleton]
    exact readsEach_map (ref _) (refOf_ref _) node "refs"

/-- What several schemas declare stands behind one another. -/
theorem catalogOf_append (first second : List Json) :
    catalogOf (first ++ second) = catalogOf first ++ catalogOf second := by
  show Catalog.mk _ _ _ = Catalog.mk _ _ _
  rw [tablesOf, enumerationsOf, refsOf, List.flatMap_append, List.flatMap_append,
    List.flatMap_append]
  rfl

/-- What schemas declare is made of their parts. -/
theorem madeOf_catalogOf (schemas : List Json) : MadeOf schemas (catalogOf schemas) := by
  induction schemas with
  | nil => exact ⟨[], .nil, rfl⟩
  | cons schema rest ih =>
      obtain ⟨parts, hparts, hrest⟩ := ih
      refine ⟨catalogOf [schema] :: parts, .cons (partOf_catalogOf schema) hparts, ?_⟩
      rw [List.foldr_cons, ← hrest]
      exact catalogOf_append [schema] rest

/-- An object with a list of schemas is read as what these declare. -/
theorem ofExport_of_exports {schemas : List Json} {database : Json}
    (hexports : Exports schemas database) : ofExport database = .ok (catalogOf schemas) := by
  obtain ⟨entries, rfl, hschemas⟩ := hexports
  have hlist : ((Json.object entries).get? "schemas").bind Json.items? = some schemas := by
    show (entries.lookup "schemas").bind Json.items? = some schemas
    rw [hschemas]
    rfl
  rw [ofExport_eq, hlist]
  rfl

/-- Every object with a list of schemas is read, whatever the elements of the list are; its catalog
is made of one part for each schema, with one record for each node, in the order of all of them; and
for each way to cut the list in two, it is the catalog of the one half followed by that of the
other. -/
theorem ofExport_loses_and_invents_nothing {schemas : List Json} {database : Json}
    (hexports : Exports schemas database) :
    ∃ catalog, ofExport database = .ok catalog ∧ MadeOf schemas catalog ∧
      ∀ {first second : List Json} {firstHalf secondHalf : Json}, schemas = first ++ second →
        Exports first firstHalf → Exports second secondHalf →
        ∃ firstCatalog secondCatalog, ofExport firstHalf = .ok firstCatalog ∧
          ofExport secondHalf = .ok secondCatalog ∧ catalog = firstCatalog ++ secondCatalog := by
  refine ⟨catalogOf schemas, ofExport_of_exports hexports, madeOf_catalogOf schemas, ?_⟩
  intro first second firstHalf secondHalf hcut hfirst hsecond
  subst hcut
  exact ⟨_, _, ofExport_of_exports hfirst, ofExport_of_exports hsecond,
    catalogOf_append first second⟩

/-- Three schemas of which only the second one is an object with a name: its tables, fields, values
and ends of refs are of all kinds. -/
def patchwork : List Json :=
  [.null,
   .object [("name", .string "blog"),
     ("tables", .array [.bool true, .object [("name", .string "posts"),
       ("fields", .array [.null, .string "id"]), ("indexes", .object [])]]),
     ("enums", .array [.object [("values", .array [.null, .string "draft",
       .object [("name", .null), ("value", .string "live")], .object [("value", .string "gone")],
       .array []])]]),
     ("refs", .array [.object [("endpoints", .array [.string "posts",
       .object [("schemaName", .string "")], .object [("schemaName", .string "auth")]])]])],
   .object [("name", .array []), ("tables", .string "posts"), ("refs", .array [.null])]]

/-- They are read as two tables, the second with two columns, an enumeration with three of its five
values, and two refs, the first with three ends of which only the last one names a schema. -/
theorem patchwork_read :
    Exports patchwork (.object [("tables", .null), ("schemas", .array patchwork)]) ∧
      ∃ catalog first second,
        ofExport (.object [("tables", .null), ("schemas", .array patchwork)]) = .ok catalog ∧
        MadeOf patchwork catalog ∧
        ofExport (.object [("schemas", .array (patchwork.take 1))]) = .ok first ∧
        ofExport (.object [("schemas", .array (patchwork.drop 1))]) = .ok second ∧
        catalog = first ++ second ∧
        catalog.tables.map (fun table => (table.name, table.columns.length, table.indexes.length)) =
          [("", 0, 0), ("posts", 2, 0)] ∧
        catalog.enums.map (·.values.length) = [3] ∧
        catalog.refs.map (·.endpoints.map (·.schema)) =
          [[some "blog", some "blog", some "auth"], []] := by
  have hexports (base : List (String × Json)) (schemas : List Json)
      (hschemas : base.lookup "schemas" = some (.array schemas)) :
      Exports schemas (.object base) := ⟨base, rfl, hschemas⟩
  have hwhole := hexports [("tables", .null), ("schemas", .array patchwork)] patchwork rfl
  obtain ⟨catalog, hread, hmade, hcut⟩ := ofExport_loses_and_invents_nothing hwhole
  obtain ⟨first, second, hfirst, hsecond, hboth⟩ :=
    hcut (List.take_append_drop 1 patchwork).symm (hexports [("schemas", _)] _ rfl)
      (hexports [("schemas", _)] _ rfl)
  have hcatalog : catalogOf patchwork = catalog :=
    Except.ok.inj ((ofExport_of_exports hwhole).symm.trans hread)
  refine ⟨hwhole, catalog, first, second, hread, hmade, hfirst, hsecond, hboth, ?_, ?_, ?_⟩
  all_goals
    rw [← hcatalog]
    decide +kernel

end Export

end SchemaScaffold.Catalog
