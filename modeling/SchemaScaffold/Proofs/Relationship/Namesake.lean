import SchemaScaffold.Proofs.Relationship.Source
import SchemaScaffold.Proofs.Schema.Orientation

/-!
# Tables of one name in several schemas

A reference may say in which schema its target is, but the search for the rows that point to a table
compares names alone. So tables that are namesakes up to case share the references to any of them,
and each of them has a relationship to many rows for every other table that names one of them. The
relationships of a table respect schemas if and only if every table that names it is matched by one
of the same name that refers to it in its own schema. This is always so in a catalog whose refs
agree with the tables they name on the schema, and there the relationships are exactly those that
are meant.
-/

namespace SchemaScaffold.Relationship

open Schema (Column Reference Table ofCatalog)
open Text (eqIgnoringAsciiCase)

/-- A reference leads to a table when it names the table and its schema, both up to case. One that
names no schema speaks of the usual one. -/
def LeadsTo (reference : Reference) (table : Table) : Prop :=
  eqIgnoringAsciiCase reference.table table.name = true ∧
    eqIgnoringAsciiCase (reference.schema.getD "public") table.schema = true

/-- A table has a reference that leads to another one. -/
def RefersTo (source table : Table) : Prop :=
  ∃ column ∈ source.columns, ∃ reference ∈ column.references, LeadsTo reference table

/-- A table has a reference with the name of another one, whichever schema it says. -/
def SpeaksOf (source table : Table) : Prop :=
  ∃ column ∈ source.columns, ∃ reference ∈ column.references,
    eqIgnoringAsciiCase reference.table table.name = true

/-- Some table of this name has a reference that leads to the table. -/
def IsReferredToFrom (table : Table) (tables : List Table) (name : String) : Prop :=
  ∃ source ∈ tables, source.name = name ∧ RefersTo source table

instance (reference : Reference) (table : Table) : Decidable (LeadsTo reference table) :=
  inferInstanceAs (Decidable (_ ∧ _))

instance (source table : Table) : Decidable (RefersTo source table) :=
  inferInstanceAs (Decidable (∃ column ∈ source.columns, _))

instance (source table : Table) : Decidable (SpeaksOf source table) :=
  inferInstanceAs (Decidable (∃ column ∈ source.columns, _))

instance (table : Table) (tables : List Table) (name : String) :
    Decidable (IsReferredToFrom table tables name) :=
  inferInstanceAs (Decidable (∃ source ∈ tables, _))

variable {names : Convention} {schema : Schema} {table : Table} {catalog : Catalog}

/-- A table that refers to another one names it. -/
theorem RefersTo.speaksOf {source : Table} (hrefers : RefersTo source table) : SpeaksOf source table := by
  obtain ⟨column, hcolumn, reference, hreference, hleads⟩ := hrefers
  exact ⟨column, hcolumn, reference, hreference, hleads.1⟩

/-- The relationships to many rows of a table come from the other tables that name it. -/
theorem exists_mem_hasMany_iff {name : String} :
    (∃ relationship ∈ hasMany names table schema, relationship.table = name) ↔
      ∃ source ∈ schema.tables, sameTable source table = false ∧ source.name = name ∧
        SpeaksOf source table := by
  rw [← List.mem_map (f := fun relationship : Relationship => relationship.table),
    mem_tables_hasMany]
  constructor
  · rintro ⟨pointer, hpointer, hname⟩
    obtain ⟨hsource, hother, hcolumn, hreference, hpoints⟩ := mem_pointersTo.mp hpointer
    exact ⟨pointer.source, hsource, hother, hname, pointer.column, hcolumn, pointer.reference,
      hreference, hpoints⟩
  · rintro ⟨source, hsource, hother, hname, column, hcolumn, reference, hreference, hpoints⟩
    exact ⟨⟨source, column, reference⟩,
      mem_pointersTo.mpr ⟨hsource, hother, hcolumn, hreference, hpoints⟩, hname⟩

/-- No ref of the catalog has the name of a table on its one side, up to case, without having its
schema too. -/
def KeepsToSchemas (catalog : Catalog) : Prop :=
  ∀ ref ∈ catalog.refs, ∀ one ∈ ref.endpoints, one.relation = some "1" →
    ∀ record ∈ catalog.tables, eqIgnoringAsciiCase one.table record.name = true →
      eqIgnoringAsciiCase (one.schema.getD "public") (record.schema.getD "public") = true

instance (catalog : Catalog) : Decidable (KeepsToSchemas catalog) :=
  inferInstanceAs (Decidable (∀ ref ∈ catalog.refs, _))

/-- In such a catalog a table refers to each table that it names. -/
theorem KeepsToSchemas.refersTo_iff (hkeeps : KeepsToSchemas catalog) {source : Table}
    (hsource : source ∈ (ofCatalog catalog).tables) (htable : table ∈ (ofCatalog catalog).tables) :
    RefersTo source table ↔ SpeaksOf source table := by
  refine ⟨RefersTo.speaksOf, ?_⟩
  rintro ⟨column, hcolumn, reference, hreference, hpoints⟩
  obtain ⟨ref, href, one, hmem, hone, hmade⟩ :=
    Schema.exists_one_of_mem_references hsource hcolumn hreference
  obtain ⟨position, hposition⟩ := List.mem_iff_getElem?.mp htable
  obtain ⟨record, hrecord, rfl⟩ := Schema.exists_record_of_table hposition
  rw [hmade] at hpoints
  have hschema := hkeeps ref href one hmem hone record (List.mem_of_getElem? hrecord) hpoints
  exact ⟨column, hcolumn, reference, hreference, hmade ▸ ⟨hpoints, hschema⟩⟩

/-- All relationships of a table to many rows come from a name under which some table refers to it,
if and only if this is so of the names of all other tables that name it. In a catalog whose refs
agree with the tables they name on the schema, a table has a relationship to many rows exactly for
the names of the other tables that refer to it. -/
theorem hasMany_respects_schemas_iff (names : Convention) :
    (∀ (schema : Schema) (table : Table),
        (∀ relationship ∈ hasMany names table schema,
            IsReferredToFrom table schema.tables relationship.table) ↔
          ∀ source ∈ schema.tables, sameTable source table = false → SpeaksOf source table →
            IsReferredToFrom table schema.tables source.name) ∧
      ∀ catalog : Catalog, KeepsToSchemas catalog →
        ∀ table ∈ (ofCatalog catalog).tables, ∀ name,
          (∃ relationship ∈ hasMany names table (ofCatalog catalog), relationship.table = name) ↔
            ∃ source ∈ (ofCatalog catalog).tables, sameTable source table = false ∧
              source.name = name ∧ RefersTo source table := by
  refine ⟨fun schema table => ⟨fun hall source hsource hother hspeaks => ?_, fun hall => ?_⟩,
    fun catalog hkeeps table htable name => ?_⟩
  · obtain ⟨relationship, hmem, hname⟩ :=
      exists_mem_hasMany_iff.mpr ⟨source, hsource, hother, rfl, hspeaks⟩
    exact hname ▸ hall relationship hmem
  · intro relationship hmem
    obtain ⟨source, hsource, hother, hname, hspeaks⟩ :=
      exists_mem_hasMany_iff.mp ⟨relationship, hmem, rfl⟩
    exact hname ▸ hall source hsource hother hspeaks
  · rw [exists_mem_hasMany_iff]
    constructor
    · rintro ⟨source, hsource, hother, hname, hspeaks⟩
      exact ⟨source, hsource, hother, hname, (hkeeps.refersTo_iff hsource htable).mpr hspeaks⟩
    · rintro ⟨source, hsource, hother, hname, hrefers⟩
      exact ⟨source, hsource, hother, hname, hrefers.speaksOf⟩

/-- The users of a shop and those of its blog, and the posts of the blog, which belong to its own
users. -/
def blogPosts : Catalog where
  tables :=
    [{ name := "users", columns := [{ name := "id" }] },
     { name := "users", schema := some "blog", columns := [{ name := "id" }] },
     { name := "posts", schema := some "blog", columns := [{ name := "user_id" }] }]
  refs :=
    [{ endpoints :=
        [{ schema := some "blog", table := "posts", columns := ["user_id"], relation := some "*" },
         { schema := some "blog", table := "users", columns := ["id"], relation := some "1" }] }]

/-- The users of the shop have a relationship to the posts, which do not refer to them. Without the
users of the shop the refs agree with the tables, and the users of the blog have their posts. -/
theorem shopUsers_related_to_blogPosts :
    (∃ shopUsers ∈ (ofCatalog blogPosts).tables, shopUsers.schema = "public" ∧
        ¬∀ relationship ∈ hasMany .eloquent shopUsers (ofCatalog blogPosts),
          IsReferredToFrom shopUsers (ofCatalog blogPosts).tables relationship.table) ∧
      let alone : Catalog := { blogPosts with tables := blogPosts.tables.tail }
      KeepsToSchemas alone ∧
        ∃ blogUsers ∈ (ofCatalog alone).tables,
          ∃ relationship ∈ hasMany .eloquent blogUsers (ofCatalog alone),
            relationship.table = "posts" := by
  obtain ⟨hschema, hcatalog⟩ := hasMany_respects_schemas_iff .eloquent
  refine ⟨⟨_, List.mem_cons_self, rfl, fun hall => ?_⟩, ?_⟩
  · have hposts := (hschema _ _).mp hall _ (List.mem_cons_of_mem _ (List.mem_cons_of_mem _
      List.mem_cons_self)) (by decide +kernel) (by decide +kernel)
    exact absurd hposts (by decide +kernel)
  · intro alone
    have hkeeps : KeepsToSchemas alone := by decide +kernel
    refine ⟨hkeeps, _, List.mem_cons_self, (hcatalog alone hkeeps _ List.mem_cons_self _).mpr ?_⟩
    decide +kernel

end SchemaScaffold.Relationship
