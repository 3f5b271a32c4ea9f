import Mathlib.Data.List.Nodup
import SchemaScaffold.Relationship

/-!
# Sources of the relationships to many rows

The relationships to many rows are found by going through the references of all other tables. A
reference that points to the table makes one, and of those with the same accessor and the same
table only the first stays. Since the accessor is derived from the name of the source alone, one
relationship is left for each name of a source: no name is met twice, and none is lost.
-/

namespace SchemaScaffold.Relationship

open Schema (Table)

/-- A reference is found where a column of another table points to the table by name. -/
theorem mem_pointersTo {table : Table} {tables : List Table} {pointer : Pointer} :
    pointer ∈ pointersTo table tables ↔
      pointer.source ∈ tables ∧ sameTable pointer.source table = false ∧
        pointer.column ∈ pointer.source.columns ∧
        pointer.reference ∈ pointer.column.references ∧
        Text.eqIgnoringAsciiCase pointer.reference.table table.name = true := by
  obtain ⟨source, column, reference⟩ := pointer
  simp only [pointersTo, pointersOf, List.mem_filter, List.mem_flatMap, List.mem_map,
    Bool.not_eq_true', Pointer.mk.injEq]
  constructor
  · rintro ⟨⟨_, ⟨hsource, hother⟩, _, hcolumn, _, hreference, rfl, rfl, rfl⟩, hpoints⟩
    exact ⟨hsource, hother, hcolumn, hreference, hpoints⟩
  · rintro ⟨hsource, hother, hcolumn, hreference, hpoints⟩
    exact ⟨⟨source, ⟨hsource, hother⟩, column, hcolumn, reference, hreference, rfl, rfl, rfl⟩,
      hpoints⟩

/-- What makes two relationships to many rows the same one: the accessor and the table. -/
def pair (relationship : Relationship) : String × String :=
  (relationship.method, relationship.table)

/-- A relationship is kept unless its pair was met, and its pair counts as met from then on. -/
theorem distinctFrom_cons (met : List (String × String)) (relationship : Relationship)
    (rest : List Relationship) :
    distinctFrom met (relationship :: rest) =
      if pair relationship ∈ met then distinctFrom met rest
      else relationship :: distinctFrom (pair relationship :: met) rest :=
  rfl

/-- The relationships that are kept stand in their order. -/
theorem distinctFrom_sublist (met : List (String × String)) (found : List Relationship) :
    (distinctFrom met found).Sublist found := by
  induction found generalizing met with
  | nil => exact List.Sublist.refl []
  | cons relationship rest ih =>
      rw [distinctFrom_cons]
      split
      · exact (ih met).cons relationship
      · exact (ih _).cons_cons relationship

/-- A pair that was met is not kept again. -/
theorem pair_not_mem_of_mem_distinctFrom {met : List (String × String)}
    {found : List Relationship} {relationship : Relationship}
    (hmem : relationship ∈ distinctFrom met found) : pair relationship ∉ met := by
  induction found generalizing met with
  | nil => cases hmem
  | cons first rest ih =>
      rw [distinctFrom_cons] at hmem
      split at hmem
      case isTrue => exact ih hmem
      case isFalse hnew =>
        rcases List.mem_cons.mp hmem with rfl | hrest
        · exact hnew
        · exact fun hmet => ih hrest (List.mem_cons_of_mem _ hmet)

/-- No pair is kept twice. -/
theorem nodup_pairs_distinctFrom (met : List (String × String)) (found : List Relationship) :
    ((distinctFrom met found).map pair).Nodup := by
  induction found generalizing met with
  | nil => exact List.nodup_nil
  | cons first rest ih =>
      rw [distinctFrom_cons]
      split
      · exact ih met
      · refine List.nodup_cons.mpr ⟨fun hmem => ?_, ih _⟩
        obtain ⟨later, hlater, hsame⟩ := List.mem_map.mp hmem
        exact pair_not_mem_of_mem_distinctFrom hlater (hsame ▸ List.mem_cons_self)

/-- Every pair is kept, unless it was met before. -/
theorem pair_mem_distinctFrom {met : List (String × String)} {found : List Relationship}
    {relationship : Relationship} (hmem : relationship ∈ found) (hnew : pair relationship ∉ met) :
    pair relationship ∈ (distinctFrom met found).map pair := by
  induction found generalizing met with
  | nil => cases hmem
  | cons first rest ih =>
      rw [distinctFrom_cons]
      split
      case isTrue hmet =>
        rcases List.mem_cons.mp hmem with rfl | hrest
        · exact absurd hmet hnew
        · exact ih hrest hnew
      case isFalse =>
        rw [List.map_cons]
        by_cases hsame : pair relationship = pair first
        · exact hsame ▸ List.mem_cons_self
        · rcases List.mem_cons.mp hmem with rfl | hrest
          · exact absurd rfl hsame
          · refine List.mem_cons_of_mem _ (ih hrest fun hmet => ?_)
            rcases List.mem_cons.mp hmet with hfirst | hbefore
            · exact hsame hfirst
            · exact hnew hbefore

variable {names : Convention} {table : Table} {schema : Schema}

/-- A relationship to many rows comes from a reference to the table. -/
theorem exists_pointer_of_mem_hasMany {relationship : Relationship}
    (hmem : relationship ∈ hasMany names table schema) :
    ∃ pointer ∈ pointersTo table schema.tables, ofPointer names pointer = relationship :=
  List.mem_map.mp ((distinctFrom_sublist _ _).subset hmem)

/-- The accessor of a relationship to many rows follows from the name of its table. -/
theorem method_of_mem_hasMany {relationship : Relationship}
    (hmem : relationship ∈ hasMany names table schema) :
    relationship.method = names.hasMany relationship.table := by
  obtain ⟨pointer, -, rfl⟩ := exists_pointer_of_mem_hasMany hmem
  rfl

/-- The tables of the relationships to many rows are the names of the sources that point to the
table. -/
theorem mem_tables_hasMany {name : String} :
    name ∈ (hasMany names table schema).map (·.table) ↔
      ∃ pointer ∈ pointersTo table schema.tables, pointer.source.name = name := by
  constructor
  · intro hname
    obtain ⟨relationship, hmem, rfl⟩ := List.mem_map.mp hname
    obtain ⟨pointer, hpointer, rfl⟩ := exists_pointer_of_mem_hasMany hmem
    exact ⟨pointer, hpointer, rfl⟩
  · rintro ⟨pointer, hpointer, rfl⟩
    have hpair : pair (ofPointer names pointer) ∈ (hasMany names table schema).map pair :=
      pair_mem_distinctFrom (List.mem_map_of_mem hpointer) List.not_mem_nil
    obtain ⟨relationship, hmem, hsame⟩ := List.mem_map.mp hpair
    exact List.mem_map.mpr ⟨relationship, hmem, congrArg Prod.snd hsame⟩

/-- The tables of the relationships to many rows are pairwise different. -/
theorem nodup_tables_hasMany : ((hasMany names table schema).map (·.table)).Nodup := by
  have hpairs : ((hasMany names table schema).map pair).Nodup := nodup_pairs_distinctFrom [] _
  refine List.Nodup.of_map (fun name => (names.hasMany name, name)) ?_
  have hsame : (hasMany names table schema).map pair =
      ((hasMany names table schema).map (·.table)).map fun name => (names.hasMany name, name) := by
    rw [List.map_map]
    refine List.map_congr_left fun relationship hmem => ?_
    rw [pair, method_of_mem_hasMany hmem]
    rfl
  rwa [← hsame]

/-- The accessors to many rows are those that the convention gives to the tables. -/
theorem map_method_hasMany :
    (hasMany names table schema).map (·.method) =
      ((hasMany names table schema).map (·.table)).map names.hasMany := by
  rw [List.map_map]
  exact List.map_congr_left fun relationship hmem => method_of_mem_hasMany hmem

end SchemaScaffold.Relationship
