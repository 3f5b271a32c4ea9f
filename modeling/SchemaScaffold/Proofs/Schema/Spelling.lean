import Mathlib.Data.List.Count
import SchemaScaffold.Proofs.Schema.Origin

/-!
# Where an exactly spelled name leads

A name on the many side of a ref is looked up as one text and without regard to case. Columns that
are told apart by nothing but case, or by where the points in their full names stand, are namesakes
to the look-up, and it leads to the last of them. So a name that spells a column exactly need not
reach it: the reference is left at the last of the namesakes, there as often as the catalog says it,
and at no other column. This is the column that was spelt if and only if no namesake of it is
declared later, as is always so where the full names of all columns differ by more than that.
-/

namespace SchemaScaffold.Schema

/-- At most one column is the last one with a full name. -/
theorem IsLastSlot.unique {tables : List Catalog.Table} {key : String} {first second : Slot}
    (hfirst : IsLastSlot tables key first) (hsecond : IsLastSlot tables key second) :
    first = second := by
  rw [← ColumnIndex.find?_ofTables] at hfirst hsecond
  exact Option.some.inj (hfirst.symm.trans hsecond)

/-- Of the columns with a full name, if there are any, one is the last. -/
theorem exists_isLastSlot {tables : List Catalog.Table} {key : String} {slot : Slot}
    (hbears : Bears tables slot key) : ∃ reached, IsLastSlot tables key reached := by
  cases hfound : (ColumnIndex.ofTables (tables.map Table.ofCatalog)).find? key with
  | some reached => exact ⟨reached, ColumnIndex.find?_ofTables.mp hfound⟩
  | none =>
      have habsent := List.lookup_eq_none_iff.mp hfound
      have hentry := ColumnIndex.mem_ofTables.mpr hbears
      exact absurd (habsent _ hentry) (by simp)

/-- The origin is told by the catalog: a ref, its two sides, and a name on the many side. -/
structure Origin.Belongs (origin : Origin) (catalog : Catalog) : Prop where
  ref : origin.ref ∈ catalog.refs
  sides : sides? origin.ref = some (origin.many, origin.one)
  name : origin.name ∈ origin.many.columns

/-- The schema, the table and the name of the column are spelt as they were declared. -/
structure Origin.Spells (origin : Origin) (table : Catalog.Table) (column : Catalog.Column) :
    Prop where
  schema : origin.schema = table.schema.getD "public"
  table : origin.many.table = table.name
  column : origin.name = column.name

/-- The full name that is looked up for an origin. -/
def Origin.key (origin : Origin) : String :=
  Text.toLower (origin.schema ++ "." ++ origin.many.table ++ "." ++ origin.name)

/-- How often the catalog says what the origin says: as often as it has the ref, for each time that
the many side has the name. -/
def Origin.mentions (origin : Origin) (catalog : Catalog) : Nat :=
  catalog.refs.count origin.ref * origin.many.columns.count origin.name

/-- An origin that spells a column is looked up under the full name of the column. -/
theorem Origin.Spells.key_eq {origin : Origin} {table : Catalog.Table} {column : Catalog.Column}
    (hspells : origin.Spells table column) : origin.key = recordKey table column := by
  rw [Origin.key, recordKey, hspells.schema, hspells.table, hspells.column]

/-- A ref leaves an origin of its own for each time that its many side has the name, at the slot
where the name leads, and no origin of another ref. -/
theorem count_originsOf (tables : List Catalog.Table) (slot : Slot) (ref : Catalog.Ref)
    {origin : Origin} (hsides : sides? origin.ref = some (origin.many, origin.one)) :
    (originsOf tables slot ref).count origin =
      if ref = origin.ref ∧ IsLastSlot tables origin.key slot then
        origin.many.columns.count origin.name
      else 0 := by
  obtain ⟨ref', many, one, name⟩ := origin
  by_cases hsame : ref = ref'
  · subst hsame
    have hinjective : Function.Injective fun name : String => (⟨ref, many, one, name⟩ : Origin) :=
      fun _ _ h => (Origin.mk.inj h).2.2.2
    simp only [originsOf, hsides, true_and]
    rw [List.count_map_of_injective _ _ hinjective, namesOf]
    split
    case isTrue hlast =>
      exact List.count_filter (decide_eq_true hlast)
    case isFalse hlast =>
      refine List.count_eq_zero_of_not_mem fun hmem => hlast ?_
      exact of_decide_eq_true (List.mem_filter.mp hmem).2
  · rw [if_neg fun h => hsame h.1]
    refine List.count_eq_zero_of_not_mem fun hmem => ?_
    unfold originsOf at hmem
    split at hmem
    case h_1 =>
      obtain ⟨_, -, heq⟩ := List.mem_map.mp hmem
      exact hsame (Origin.mk.inj heq).1
    case h_2 => cases hmem

/-- The origins at a slot hold an origin as often as the catalog says it, if its name leads there,
and else not at all. -/
theorem count_originsAt (catalog : Catalog) (slot : Slot) {origin : Origin}
    (hsides : sides? origin.ref = some (origin.many, origin.one)) :
    (originsAt catalog slot).count origin =
      if IsLastSlot catalog.tables origin.key slot then origin.mentions catalog else 0 := by
  unfold originsAt Origin.mentions
  induction catalog.refs with
  | nil => simp
  | cons ref rest ih =>
      rw [List.flatMap_cons, List.count_append, ih, count_originsOf _ _ _ hsides, List.count_cons]
      by_cases hlast : IsLastSlot catalog.tables origin.key slot
      · by_cases hsame : ref = origin.ref
        · simp [hlast, hsame, Nat.add_mul, Nat.add_comm]
        · simp [hlast, hsame]
      · simp [hlast]

/-- A name on the many side of a ref that spells a declared column exactly is looked up with
success. The reference is left at the column that is reached, once for each time that the catalog
says so, and at no other column; each column has its references from its origins. The column that is
reached is the one that was spelt if and only if no column with the same full name, without regard to
case, is declared after it. -/
theorem spelled_reached_iff_last {catalog : Catalog} {origin : Origin} (slot : Slot)
    {record : Catalog.Table} {declared : Catalog.Column} (hbelongs : origin.Belongs catalog)
    (hrecord : catalog.tables[slot.table]? = some record)
    (hdeclared : record.columns[slot.column]? = some declared)
    (hspells : origin.Spells record declared) :
    ∃ reached : Slot,
      (ColumnIndex.ofTables (catalog.tables.map Table.ofCatalog)).find?
          (endpointKey origin.many origin.name) = some reached ∧
      0 < origin.mentions catalog ∧
      (∀ (other : Slot) (table : Table) (column : Column),
        (ofCatalog catalog).tables[other.table]? = some table →
        table.columns[other.column]? = some column →
          column.references = (originsAt catalog other).map (·.reference) ∧
          (originsAt catalog other).count origin =
            if other = reached then origin.mentions catalog else 0) ∧
      (reached = slot ↔ ∀ later : Slot, slot.Before later →
        ¬Bears catalog.tables later (recordKey record declared)) := by
  have hbears : Bears catalog.tables slot (recordKey record declared) :=
    ⟨record, declared, hrecord, hdeclared, rfl⟩
  obtain ⟨reached, hreached⟩ := exists_isLastSlot hbears
  refine ⟨reached, ?_, ?_, ?_, ?_⟩
  · have hkey : endpointKey origin.many origin.name = recordKey record declared :=
      hspells.key_eq
    rw [ColumnIndex.find?_ofTables, hkey]
    exact hreached
  · exact Nat.mul_pos (List.count_pos_iff.mpr hbelongs.ref) (List.count_pos_iff.mpr hbelongs.name)
  · intro other table column htable hcolumn
    obtain ⟨found, -, rfl⟩ := exists_record_of_table htable
    obtain ⟨foundColumn, -, rfl⟩ := exists_record_of_column hcolumn
    refine ⟨referencesAt_eq_map_originsAt catalog other, ?_⟩
    have hother : IsLastSlot catalog.tables origin.key other ↔ other = reached := by
      rw [hspells.key_eq]
      constructor
      · exact fun hlast => hlast.unique hreached
      · rintro rfl
        exact hreached
    simp only [count_originsAt catalog other hbelongs.sides, hother]
  · constructor
    · rintro rfl
      exact hreached.2
    · exact fun hlast => hreached.unique ⟨hbears, hlast⟩

/-- Posts that belong to users, as a ref tells it with the exact names of all columns. -/
def postsToUsers : Origin :=
  let many : Catalog.Endpoint :=
    { table := "posts", columns := ["user_id"], relation := some "*" }
  let one : Catalog.Endpoint :=
    { table := "users", columns := ["id"], relation := some "1" }
  { ref := { endpoints := [many, one] }, many, one, name := "user_id" }

/-- Posts in two tables whose names differ in case only, and the ref that spells the first one. -/
def recasedPosts : Catalog where
  tables :=
    [{ name := "posts", columns := [{ name := "user_id" }] },
     { name := "Posts", columns := [{ name := "user_id" }] },
     { name := "users", columns := [{ name := "id" }] }]
  refs := [postsToUsers.ref]

/-- The ref spells the first posts, but its reference is left at the other ones. -/
theorem recasedPosts_reached_elsewhere :
    ∃ (record : Catalog.Table) (declared : Catalog.Column) (reached : Slot),
      recasedPosts.tables[0]? = some record ∧ record.columns[0]? = some declared ∧
        postsToUsers.Belongs recasedPosts ∧ postsToUsers.Spells record declared ∧
        reached ≠ ⟨0, 0⟩ ∧ (originsAt recasedPosts reached).count postsToUsers = 1 ∧
        (originsAt recasedPosts ⟨0, 0⟩).count postsToUsers = 0 := by
  have hbelongs : postsToUsers.Belongs recasedPosts :=
    ⟨List.mem_cons_self, rfl, List.mem_cons_self⟩
  obtain ⟨reached, hfound, -, hcolumns, hslot⟩ :=
    spelled_reached_iff_last ⟨0, 0⟩ hbelongs rfl rfl ⟨rfl, rfl, rfl⟩
  have hbears := (ColumnIndex.find?_ofTables.mp hfound).1
  have hmissed : reached ≠ ⟨0, 0⟩ := by
    intro hsame
    refine hslot.mp hsame ⟨1, 0⟩ (Or.inl Nat.zero_lt_one) ⟨_, _, rfl, rfl, ?_⟩
    decide +kernel
  have hlinked (slot : Slot) {key : String} (hslot : Bears recasedPosts.tables slot key) :
      (originsAt recasedPosts slot).count postsToUsers = if slot = reached then 1 else 0 := by
    obtain ⟨record, declared, hrecord, hdeclared, -⟩ := hslot
    refine (hcolumns slot (linkedTable recasedPosts slot.table record)
      (linkedColumn recasedPosts slot declared) ?_ ?_).2
    · rw [tables_ofCatalog, List.getElem?_mapIdx, hrecord, Option.map_some]
    · rw [linkedTable, List.getElem?_mapIdx, hdeclared, Option.map_some]
  refine ⟨_, _, reached, rfl, rfl, hbelongs, ⟨rfl, rfl, rfl⟩, hmissed, ?_, ?_⟩
  · rw [hlinked reached hbears, if_pos rfl]
  · rw [hlinked ⟨0, 0⟩ ⟨_, _, rfl, rfl, rfl⟩, if_neg hmissed.symm]

end SchemaScaffold.Schema
