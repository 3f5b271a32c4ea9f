import SchemaScaffold.Proofs.Relationship.Accessor
import SchemaScaffold.Proofs.Relationship.Source

/-!
# Whether the methods of a model are pairwise different

A class cannot have two methods of one name. The accessors to one row never collide with each
other, since each of them is chosen among new names. The accessors to many rows are not chosen:
they follow from the names of the sources, and only relationships of the same source are merged.
So methods collide in exactly two ways: two sources of different names get the same accessor, as
`post` and `posts` do, or the accessor of a source is one that leads to one row already, as with
nouns that are their own plural.
-/

namespace SchemaScaffold.Relationship

open Schema (Table)

/-- The accessors of a table to one row are pairwise different. All its accessors together are
pairwise different if and only if the tables that point to it get different accessors as far as
their names differ, and none of these is an accessor to one row. -/
theorem nodup_methods_iff (names : Convention) (table : Table) (schema : Schema) :
    ((belongsTo names table).map (·.method)).Nodup ∧
      (((all names table schema).map (·.method)).Nodup ↔
        (∀ first ∈ pointersTo table schema.tables, ∀ second ∈ pointersTo table schema.tables,
            names.hasMany first.source.name = names.hasMany second.source.name →
              first.source.name = second.source.name) ∧
          ∀ pointer ∈ pointersTo table schema.tables, ∀ own ∈ belongsTo names table,
            own.method ≠ names.hasMany pointer.source.name) := by
  refine ⟨nodup_methods_belongsTo names table, ?_⟩
  rw [all, List.map_append, List.nodup_append,
    and_iff_right (nodup_methods_belongsTo names table), map_method_hasMany]
  refine and_congr ?_ ?_
  · rw [List.nodup_map_iff_inj_on nodup_tables_hasMany]
    constructor
    · intro hinjective first hfirst second hsecond
      exact hinjective _ (mem_tables_hasMany.mpr ⟨first, hfirst, rfl⟩) _
        (mem_tables_hasMany.mpr ⟨second, hsecond, rfl⟩)
    · intro hsources first hfirst second hsecond
      obtain ⟨pointer, hpointer, rfl⟩ := mem_tables_hasMany.mp hfirst
      obtain ⟨other, hother, rfl⟩ := mem_tables_hasMany.mp hsecond
      exact hsources pointer hpointer other hother
  · constructor
    · intro hapart pointer hpointer own hown
      exact hapart _ (List.mem_map_of_mem hown) _
        (List.mem_map_of_mem (mem_tables_hasMany.mpr ⟨pointer, hpointer, rfl⟩))
    · intro hapart method hmethod other hother
      obtain ⟨own, hown, rfl⟩ := List.mem_map.mp hmethod
      obtain ⟨name, hname, rfl⟩ := List.mem_map.mp hother
      obtain ⟨pointer, hpointer, rfl⟩ := mem_tables_hasMany.mp hname
      exact hapart pointer hpointer own hown

/-- A table with one column that points to another table. -/
def pointing (name column target : String) : Table where
  name
  schema := "public"
  columns :=
    [{ name := column
       type := { name := "bigint" }
       references :=
        [{ table := target, schema := none, column := none, onDelete := none, onUpdate := none }] }]
  indexes := []

-- Both collisions in one model: `news` is its own plural, and it is spelt in two ways.
example :
    let users := pointing "users" "news_id" "news"
    let sources := ["news", "News"].map fun name => pointing name "user_id" "users"
    (all .eloquent users { tables := users :: sources }).map (·.method) =
      ["news", "news", "news"] := by
  decide +kernel

end SchemaScaffold.Relationship
