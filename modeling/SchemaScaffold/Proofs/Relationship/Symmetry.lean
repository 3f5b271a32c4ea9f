import SchemaScaffold.Proofs.Relationship.Accessor
import SchemaScaffold.Proofs.Relationship.Source
import SchemaScaffold.Proofs.Schema.Linking

/-!
# Both sides of a reference

A reference is seen from two tables: the one it stands in has a relationship to one row, and the
one it points to has a relationship to many rows. The two sides are found by different scans. Of a
column with several references the first makes the relationship to one row, but each of them makes
one to many rows. So a relationship to many rows is answered from the other side if and only if the
first reference of its column leads back. No column has more than one reference as long as no two
refs speak of the same column, and then every relationship is answered.
-/

namespace SchemaScaffold.Relationship

open Schema (Table Column referencesAt ofCatalog)

/-- The source of a relationship to many rows answers it: by the same column and the same key, one
of its own relationships leads to the table. -/
def IsAnswered (names : Convention) (source target : Table) (relationship : Relationship) : Prop :=
  ∃ own ∈ belongsTo names source, own.foreignKey = relationship.foreignKey ∧
    own.key = relationship.key ∧ Text.eqIgnoringAsciiCase own.table target.name = true

instance (names : Convention) (source target : Table) (relationship : Relationship) :
    Decidable (IsAnswered names source target relationship) :=
  inferInstanceAs (Decidable (∃ own ∈ belongsTo names source, _))

/-- A column of the source that bears the name leads to the table by its first reference, and by
the same key. -/
def LeadsBack (source target : Table) (relationship : Relationship) : Prop :=
  ∃ column ∈ source.columns, column.name = relationship.foreignKey ∧
    ∃ reference ∈ column.references.head?, reference.key = relationship.key ∧
      Text.eqIgnoringAsciiCase reference.table target.name = true

instance (source target : Table) (relationship : Relationship) :
    Decidable (LeadsBack source target relationship) :=
  inferInstanceAs (Decidable (∃ column ∈ source.columns, _))

/-- A relationship is answered if and only if the first reference of its column leads back. -/
theorem isAnswered_iff_leadsBack {names : Convention} {source target : Table}
    {relationship : Relationship} :
    IsAnswered names source target relationship ↔ LeadsBack source target relationship := by
  have hlinks := map_link_belongsToFrom names [] source.columns
  constructor
  · rintro ⟨own, hown, hforeign, hkey, htable⟩
    have hlink : own.link ∈ (belongsTo names source).map link := List.mem_map_of_mem hown
    rw [belongsTo, hlinks] at hlink
    obtain ⟨column, hcolumn, hsome⟩ := List.mem_filterMap.mp hlink
    obtain ⟨reference, hreference, hsame⟩ := Option.map_eq_some_iff.mp hsome
    obtain ⟨hname, hrest⟩ := Prod.mk.inj hsame
    obtain ⟨hsameKey, hsameTable⟩ := Prod.mk.inj hrest
    exact ⟨column, hcolumn, hname.trans hforeign, reference, hreference, hsameKey.trans hkey,
      hsameTable ▸ htable⟩
  · rintro ⟨column, hcolumn, hname, reference, hreference, hkey, htable⟩
    have hlink : (column.name, reference.key, reference.table) ∈
        (belongsTo names source).map link := by
      rw [belongsTo, hlinks]
      exact List.mem_filterMap.mpr ⟨column, hcolumn, Option.map_eq_some_iff.mpr
        ⟨reference, hreference, rfl⟩⟩
    obtain ⟨own, hown, hsame⟩ := List.mem_map.mp hlink
    obtain ⟨hforeign, hrest⟩ := Prod.mk.inj hsame
    obtain ⟨hsameKey, hsameTable⟩ := Prod.mk.inj hrest
    exact ⟨own, hown, hforeign.trans hname, hsameKey.trans hkey, hsameTable ▸ htable⟩

/-- The relationship of a reference is answered when the reference is the only one of its column. -/
theorem leadsBack_of_references_le_one {names : Convention} {target : Table} {tables : List Table}
    {pointer : Pointer} (hpointer : pointer ∈ pointersTo target tables)
    (hsingle : pointer.column.references.length ≤ 1) :
    LeadsBack pointer.source target (ofPointer names pointer) := by
  obtain ⟨-, -, hcolumn, hreference, hpoints⟩ := mem_pointersTo.mp hpointer
  have hfirst : pointer.reference ∈ pointer.column.references.head? := by
    cases hreferences : pointer.column.references with
    | nil => simp [hreferences] at hreference
    | cons first rest =>
        rw [hreferences, List.length_cons] at hsingle
        have hrest : rest = [] := List.length_eq_zero_iff.mp (by omega)
        rw [hreferences, hrest, List.mem_singleton] at hreference
        exact congrArg some hreference.symm
  exact ⟨pointer.column, hcolumn, rfl, pointer.reference, hfirst, rfl, hpoints⟩

/-- The other side of a relationship to one row: the table it leads to has a relationship to many
rows of its source, unless it is the source itself. -/
theorem exists_hasMany_of_belongsTo {names : Convention} {schema : Schema} {source target : Table}
    {own : Relationship} (hsource : source ∈ schema.tables)
    (hother : sameTable source target = false) (hown : own ∈ belongsTo names source)
    (hleads : Text.eqIgnoringAsciiCase own.table target.name = true) :
    ∃ relationship ∈ hasMany names target schema, relationship.table = source.name := by
  obtain ⟨column, hcolumn, -, reference, hreference, -, hpoints⟩ :=
    isAnswered_iff_leadsBack.mp ⟨own, hown, rfl, rfl, hleads⟩
  have hpointer : ⟨source, column, reference⟩ ∈ pointersTo target schema.tables :=
    mem_pointersTo.mpr
      ⟨hsource, hother, hcolumn, List.mem_of_mem_head? hreference, hpoints⟩
  exact List.mem_map.mp (mem_tables_hasMany.mpr ⟨_, hpointer, rfl⟩)

/-- Where a table has a relationship to one row of another table, that one has a relationship to
many rows of the first. The other way round, a relationship to many rows comes from a reference of
another table, and whichever reference it comes from, its source answers it if and only if the
first reference of the column leads back. All of them are answered when no two refs of the catalog
speak of the same column. -/
theorem hasMany_answered_iff (names : Convention) (catalog : Catalog) (target : Table) :
    (∀ source ∈ (ofCatalog catalog).tables, sameTable source target = false →
        ∀ own ∈ belongsTo names source, Text.eqIgnoringAsciiCase own.table target.name = true →
          ∃ relationship ∈ hasMany names target (ofCatalog catalog),
            relationship.table = source.name) ∧
      ∀ relationship ∈ hasMany names target (ofCatalog catalog),
        (∃ pointer ∈ pointersTo target (ofCatalog catalog).tables,
          ofPointer names pointer = relationship) ∧
        ∀ pointer ∈ pointersTo target (ofCatalog catalog).tables,
          ofPointer names pointer = relationship →
            (IsAnswered names pointer.source target relationship ↔
              LeadsBack pointer.source target relationship) ∧
            ((∀ slot, (referencesAt catalog slot).length ≤ 1) →
              IsAnswered names pointer.source target relationship) := by
  constructor
  · intro source hsource hother own hown hleads
    exact exists_hasMany_of_belongsTo hsource hother hown hleads
  · intro relationship hmem
    refine ⟨exists_pointer_of_mem_hasMany hmem, ?_⟩
    rintro pointer hpointer rfl
    refine ⟨isAnswered_iff_leadsBack, fun hsingle => ?_⟩
    obtain ⟨htable, -, hcolumn, -, -⟩ := mem_pointersTo.mp hpointer
    obtain ⟨slot, hslot⟩ := Schema.exists_slot_of_mem htable hcolumn
    exact isAnswered_iff_leadsBack.mpr
      (leadsBack_of_references_le_one hpointer (hslot ▸ hsingle slot))

/-- The records of two tables that a third one points to. -/
def ownerRecords : List Catalog.Table :=
  [{ name := "users", columns := [{ name := "id" }] },
   { name := "teams", columns := [{ name := "id" }] }]

/-- Posts belong to a user by one ref and to a team by another, both through the same column. -/
def sharedOwner : Catalog where
  tables := ownerRecords ++ [{ name := "posts", columns := [{ name := "owner_id" }] }]
  refs := ownerRecords.map fun owner =>
    { endpoints :=
        [{ table := "posts", columns := ["owner_id"], relation := some "*" },
         { table := owner.name, columns := ["id"], relation := some "1" }] }

/-- The posts of a user or of a team. -/
def ownedPosts : Relationship where
  kind := .hasMany
  method := "posts"
  model := "Post"
  table := "posts"
  foreignKey := "owner_id"
  key := none

/-- Users and teams both have many posts. A post answers its user, but not its team. -/
theorem ownedPosts_answered_to_users_only :
    (∀ owner ∈ ownerRecords,
      ownedPosts ∈ hasMany .eloquent (.ofCatalog owner) (ofCatalog sharedOwner)) ∧
    ∀ owner ∈ ownerRecords, ∃ pointer ∈ pointersTo (.ofCatalog owner) (ofCatalog sharedOwner).tables,
      ofPointer .eloquent pointer = ownedPosts ∧
        (IsAnswered .eloquent pointer.source (.ofCatalog owner) ownedPosts ↔
          owner.name = "users") := by
  have hposts : ∀ owner ∈ ownerRecords,
      ownedPosts ∈ hasMany .eloquent (.ofCatalog owner) (ofCatalog sharedOwner) := by
    decide +kernel
  have hback : ∀ owner ∈ ownerRecords,
      ∀ pointer ∈ pointersTo (.ofCatalog owner) (ofCatalog sharedOwner).tables,
        LeadsBack pointer.source (.ofCatalog owner) ownedPosts ↔ owner.name = "users" := by
    decide +kernel
  refine ⟨hposts, fun owner howner => ?_⟩
  obtain ⟨⟨pointer, hpointer, hmade⟩, hsides⟩ :=
    (hasMany_answered_iff .eloquent sharedOwner (.ofCatalog owner)).2 _ (hposts owner howner)
  exact ⟨pointer, hpointer, hmade,
    (hsides pointer hpointer hmade).1.trans (hback owner howner pointer hpointer)⟩

end SchemaScaffold.Relationship
