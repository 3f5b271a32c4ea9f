import SchemaScaffold.Proofs.Schema.IndexNames

/-!
# What linking a catalog yields

Linking works in two passes: it enters every column in an index that later columns may overwrite,
and then appends references through that index, ref by ref. The result is stated here without
either pass. A column takes everything but its references from its own record, and its references
are read off the refs of the catalog: a ref speaks of a column when the column is the last one
that bears the name.
-/

namespace SchemaScaffold.Schema

/-- Slots are ordered by the declaration of their tables, and of the columns in a table. -/
def Slot.Before (first second : Slot) : Prop :=
  first.table < second.table ∨ first.table = second.table ∧ first.column < second.column

/-- No slot stands before itself. -/
theorem Slot.Before.irrefl (slot : Slot) : ¬slot.Before slot := by
  unfold Slot.Before
  omega

/-- Of three slots in a row the first stands before the last. -/
theorem Slot.Before.trans {first second third : Slot} (hfirst : first.Before second)
    (hsecond : second.Before third) : first.Before third := by
  unfold Slot.Before at *
  omega

/-- The full name of a declared column, without regard to case. -/
def recordKey (table : Catalog.Table) (column : Catalog.Column) : String :=
  Text.toLower (table.schema.getD "public" ++ "." ++ table.name ++ "." ++ column.name)

/-- The column at this slot has this full name. -/
def Bears (tables : List Catalog.Table) (slot : Slot) (key : String) : Prop :=
  ∃ table column, tables[slot.table]? = some table ∧ table.columns[slot.column]? = some column ∧
    recordKey table column = key

/-- Of all columns with this full name, the one at this slot is declared last. -/
def IsLastSlot (tables : List Catalog.Table) (key : String) (slot : Slot) : Prop :=
  Bears tables slot key ∧ ∀ later : Slot, slot.Before later → ¬Bears tables later key

namespace ColumnIndex

/-- The entries of an index stand in the reverse of the order of their slots, and all of them
before a bound. This is what entering the columns one after another keeps up. -/
structure Ordered (index : ColumnIndex) (bound : Slot) : Prop where
  descending : index.entries.Pairwise fun entry earlier => earlier.2.Before entry.2
  below : ∀ entry ∈ index.entries, entry.2.Before bound

/-- An index stays ordered when a column is entered at the bound. -/
theorem Ordered.insert {index : ColumnIndex} {slot bound : Slot} (hordered : index.Ordered slot)
    (hbound : slot.Before bound) (key : String) : (index.insert key slot).Ordered bound := by
  constructor
  · exact List.pairwise_cons.mpr ⟨hordered.below, hordered.descending⟩
  · intro entry hentry
    rcases List.mem_cons.mp hentry with rfl | hold
    · exact hbound
    · exact (hordered.below entry hold).trans hbound

/-- An index stays ordered under a later bound. -/
theorem Ordered.mono {index : ColumnIndex} {slot bound : Slot} (hordered : index.Ordered slot)
    (hbound : slot.Before bound) : index.Ordered bound :=
  ⟨hordered.descending, fun entry hentry => (hordered.below entry hentry).trans hbound⟩

/-- Entering the columns of a table keeps the index ordered. -/
theorem Ordered.insertColumns {index : ColumnIndex} (table : Table) {tableSlot columnSlot : Nat}
    (columns : List Column) (hordered : index.Ordered ⟨tableSlot, columnSlot⟩) :
    (index.insertColumns table tableSlot columnSlot columns).Ordered
      ⟨tableSlot, columnSlot + columns.length⟩ := by
  induction columns generalizing index columnSlot with
  | nil => exact hordered
  | cons column rest ih =>
      have hnext : Slot.Before ⟨tableSlot, columnSlot⟩ ⟨tableSlot, columnSlot + 1⟩ :=
        Or.inr ⟨rfl, Nat.lt_succ_self _⟩
      have hrest := ih (hordered.insert hnext (columnKey table.schema table.name column.name))
      rw [List.length_cons, Nat.add_comm rest.length 1, ← Nat.add_assoc]
      exact hrest

/-- Entering the columns of several tables keeps the index ordered. -/
theorem Ordered.insertTables {index : ColumnIndex} {tableSlot : Nat} (tables : List Table)
    (hordered : index.Ordered ⟨tableSlot, 0⟩) :
    (index.insertTables tableSlot tables).Ordered ⟨tableSlot + tables.length, 0⟩ := by
  induction tables generalizing index tableSlot with
  | nil => exact hordered
  | cons table rest ih =>
      have hcolumns := hordered.insertColumns table table.columns
      have hnext : Slot.Before ⟨tableSlot, 0 + table.columns.length⟩ ⟨tableSlot + 1, 0⟩ :=
        Or.inl (Nat.lt_succ_self _)
      have hrest := ih (hcolumns.mono hnext)
      rw [List.length_cons, Nat.add_comm rest.length 1, ← Nat.add_assoc]
      exact hrest

/-- The entries for the columns of a table, next to those that were there. -/
theorem mem_insertColumns {index : ColumnIndex} {table : Table} {tableSlot columnSlot : Nat}
    {columns : List Column} {key : String} {slot : Slot} :
    (key, slot) ∈ (index.insertColumns table tableSlot columnSlot columns).entries ↔
      (key, slot) ∈ index.entries ∨ ∃ position column, columns[position]? = some column ∧
        slot = ⟨tableSlot, columnSlot + position⟩ ∧
        key = columnKey table.schema table.name column.name := by
  induction columns generalizing index columnSlot with
  | nil => simp [insertColumns]
  | cons column rest ih =>
      rw [insertColumns, ih, insert, List.mem_cons, Prod.mk.injEq, @or_comm (_ ∧ _), or_assoc]
      refine or_congr_right ?_
      constructor
      · rintro (⟨hkey, hslot⟩ | ⟨position, other, hother, hslot, hkey⟩)
        · exact ⟨0, column, rfl, hslot, hkey⟩
        · refine ⟨position + 1, other, hother, ?_, hkey⟩
          rw [hslot, Nat.add_assoc, Nat.add_comm 1]
      · rintro ⟨position, other, hother, hslot, hkey⟩
        cases position with
        | zero =>
            cases hother
            exact Or.inl ⟨hkey, hslot⟩
        | succ position =>
            refine Or.inr ⟨position, other, hother, ?_, hkey⟩
            rw [hslot, Nat.add_assoc, Nat.add_comm 1]

/-- The entries for the columns of several tables, next to those that were there. -/
theorem mem_insertTables {index : ColumnIndex} {tableSlot : Nat} {tables : List Table}
    {key : String} {slot : Slot} :
    (key, slot) ∈ (index.insertTables tableSlot tables).entries ↔
      (key, slot) ∈ index.entries ∨ ∃ position table column, tables[position]? = some table ∧
        table.columns[slot.column]? = some column ∧ slot.table = tableSlot + position ∧
        key = columnKey table.schema table.name column.name := by
  induction tables generalizing index tableSlot with
  | nil => simp [insertTables]
  | cons table rest ih =>
      rw [insertTables, ih, mem_insertColumns, or_assoc]
      refine or_congr_right ?_
      constructor
      · rintro (⟨position, column, hcolumn, rfl, hkey⟩ | ⟨position, other, column, hother, hrest⟩)
        · refine ⟨0, table, column, rfl, ?_, rfl, hkey⟩
          rwa [Nat.zero_add]
        · obtain ⟨hcolumn, hslot, hkey⟩ := hrest
          refine ⟨position + 1, other, column, hother, hcolumn, ?_, hkey⟩
          rw [hslot, Nat.add_assoc, Nat.add_comm 1]
      · rintro ⟨position, other, column, hother, hcolumn, hslot, hkey⟩
        cases position with
        | zero =>
            cases hother
            refine Or.inl ⟨slot.column, column, hcolumn, ?_, hkey⟩
            rw [Nat.zero_add, ← Nat.add_zero tableSlot, ← hslot]
        | succ position =>
            refine Or.inr ⟨position, other, column, hother, hcolumn, ?_, hkey⟩
            rw [hslot, Nat.add_assoc, Nat.add_comm 1]

/-- In an ordered index the column found under a key is the last one that was entered. -/
theorem Ordered.find?_eq_some_iff {index : ColumnIndex} {bound : Slot}
    (hordered : index.Ordered bound) {key : String} {slot : Slot} :
    index.find? key = some slot ↔ (key, slot) ∈ index.entries ∧
      ∀ later : Slot, slot.Before later → (key, later) ∉ index.entries := by
  obtain ⟨hdescending, -⟩ := hordered
  obtain ⟨entries⟩ := index
  unfold find?
  induction entries with
  | nil => simp
  | cons entry rest ih =>
      obtain ⟨other, newest⟩ := entry
      obtain ⟨hnewest, hrest⟩ := List.pairwise_cons.mp hdescending
      by_cases hkey : key = other
      · -- The head hides the rest, and every entry of the rest stands before it.
        subst hkey
        rw [List.lookup_cons_self, Option.some.injEq]
        constructor
        · rintro rfl
          refine ⟨List.mem_cons_self, fun later hlater hmem => ?_⟩
          rcases List.mem_cons.mp hmem with hsame | hold
          · exact Slot.Before.irrefl _ ((Prod.mk.inj hsame).2 ▸ hlater)
          · exact Slot.Before.irrefl _ (hlater.trans (hnewest _ hold))
        · rintro ⟨hmem, hlast⟩
          rcases List.mem_cons.mp hmem with hsame | hold
          · exact (Prod.mk.inj hsame).2.symm
          · exact absurd List.mem_cons_self (hlast newest (hnewest _ hold))
      · have hentry (slot : Slot) : (key, slot) ∈ (other, newest) :: rest ↔ (key, slot) ∈ rest := by
          rw [List.mem_cons, Prod.mk.injEq]
          exact or_iff_right fun h => hkey h.1
        rw [List.lookup_cons, beq_false_of_ne hkey]
        simpa only [hentry] using ih hrest

/-- The index of the tables of a catalog holds every column under its full name. -/
theorem mem_ofTables {tables : List Catalog.Table} {key : String} {slot : Slot} :
    (key, slot) ∈ (ofTables (tables.map Table.ofCatalog)).entries ↔ Bears tables slot key := by
  rw [ofTables, mem_insertTables]
  constructor
  · rintro (hnone | ⟨position, table, column, htable, hcolumn, hslot, hkey⟩)
    · cases hnone
    · rw [Nat.zero_add] at hslot
      subst hslot
      rw [List.getElem?_map, Option.map_eq_some_iff] at htable
      obtain ⟨record, hrecord, rfl⟩ := htable
      rw [Table.ofCatalog, List.getElem?_map, Option.map_eq_some_iff] at hcolumn
      obtain ⟨declared, hdeclared, rfl⟩ := hcolumn
      exact ⟨record, declared, hrecord, hdeclared, hkey.symm⟩
  · rintro ⟨record, declared, hrecord, hdeclared, hkey⟩
    refine Or.inr ⟨slot.table, .ofCatalog record, .ofCatalog declared, ?_, ?_, ?_, hkey.symm⟩
    · rw [List.getElem?_map, hrecord, Option.map_some]
    · rw [Table.ofCatalog, List.getElem?_map, hdeclared, Option.map_some]
    · rw [Nat.zero_add]

/-- The index of the tables of a catalog leads from a full name to the last column that has it. -/
theorem find?_ofTables {tables : List Catalog.Table} {key : String} {slot : Slot} :
    (ofTables (tables.map Table.ofCatalog)).find? key = some slot ↔
      IsLastSlot tables key slot := by
  have hempty : Ordered {} ⟨0, 0⟩ := ⟨List.Pairwise.nil, fun _ hentry => nomatch hentry⟩
  rw [ofTables, (hempty.insertTables (tables.map Table.ofCatalog)).find?_eq_some_iff]
  unfold IsLastSlot
  rw [← ofTables]
  simp only [mem_ofTables]

end ColumnIndex

instance (tables : List Catalog.Table) (key : String) (slot : Slot) :
    Decidable (IsLastSlot tables key slot) :=
  decidable_of_iff _ ColumnIndex.find?_ofTables

/-- The many side and the one side of a ref, when it has two endpoints and they are one of each. -/
def sides? (ref : Catalog.Ref) : Option (Catalog.Endpoint × Catalog.Endpoint) :=
  match ref.endpoints.filter (·.relation = some "*"),
    ref.endpoints.filter (·.relation = some "1") with
  | [many], [one] => if ref.endpoints.length = 2 then some (many, one) else none
  | _, _ => none

/-- The columns of a many side that mean the column at a slot. -/
def namesOf (tables : List Catalog.Table) (slot : Slot) (many : Catalog.Endpoint) : List String :=
  many.columns.filter fun name =>
    IsLastSlot tables
      (Text.toLower (many.schema.getD "public" ++ "." ++ many.table ++ "." ++ name)) slot

/-- What a ref says of the column at a slot: one reference for each column of its many side that
means it. -/
def refReferences (tables : List Catalog.Table) (slot : Slot) (ref : Catalog.Ref) :
    List Reference :=
  match sides? ref with
  | some (many, one) =>
    (namesOf tables slot many).map fun _ =>
      { table := one.table
        schema := one.schema
        column := one.columns.head?
        onDelete := ref.onDelete.map Text.toLower
        onUpdate := ref.onUpdate.map Text.toLower }
  | none => []

/-- The references of the column at a slot. -/
def referencesAt (catalog : Catalog) (slot : Slot) : List Reference :=
  catalog.refs.flatMap (refReferences catalog.tables slot)

/-- Give every column the references that belong to its slot. -/
def withReferences (tables : List Table) (references : Slot → List Reference) : List Table :=
  tables.mapIdx fun tableSlot table =>
    { table with
      columns := table.columns.mapIdx fun columnSlot column =>
        { column with references := references ⟨tableSlot, columnSlot⟩ } }

/-- Leaving a reference at a slot adds it to the references of that slot and to no others. -/
theorem addReferenceAt_withReferences (tables : List Table) (references : Slot → List Reference)
    (slot : Slot) (reference : Reference) :
    addReferenceAt (withReferences tables references) slot reference =
      withReferences tables fun other =>
        references other ++ if other = slot then [reference] else [] := by
  obtain ⟨tableSlot, columnSlot⟩ := slot
  apply List.ext_getElem?
  intro position
  rw [addReferenceAt, withReferences, withReferences, List.getElem?_modify, List.getElem?_mapIdx,
    List.getElem?_mapIdx]
  cases tables[position]? with
  | none => rfl
  | some table =>
      by_cases htable : tableSlot = position
      · subst htable
        simp only [Option.map_some, if_true, Slot.mk.injEq, true_and, Option.map_eq_map]
        congr 2
        apply List.ext_getElem?
        intro index
        rw [List.getElem?_modify, List.getElem?_mapIdx, List.getElem?_mapIdx]
        cases table.columns[index]? with
        | none => rfl
        | some column =>
            by_cases hcolumn : columnSlot = index
            · subst hcolumn
              simp [Column.addReference]
            · have hother : ¬index = columnSlot := fun h => hcolumn h.symm
              simp [hcolumn, hother]
      · have hother (index : Nat) : ¬(position = tableSlot ∧ index = columnSlot) :=
          fun h => htable h.1.symm
        simp [htable, hother]

/-- Looking up the names of a many side one after another adds a reference to each slot for every
name that means it. -/
theorem foldl_attach (declared : List Catalog.Table) (tables : List Table)
    (many : Catalog.Endpoint) (names : List String) (reference : Reference)
    (references : Slot → List Reference) :
    names.foldl (fun tables name =>
      match (ColumnIndex.ofTables (declared.map Table.ofCatalog)).find? (endpointKey many name) with
      | some slot => addReferenceAt tables slot reference
      | none => tables) (withReferences tables references) =
      withReferences tables fun slot => references slot ++
        (names.filter fun name => IsLastSlot declared (endpointKey many name) slot).map
          fun _ => reference := by
  induction names generalizing references with
  | nil => simp
  | cons name rest ih =>
      have hmeans (slot : Slot) : IsLastSlot declared (endpointKey many name) slot ↔
          (ColumnIndex.ofTables (declared.map Table.ofCatalog)).find? (endpointKey many name) =
            some slot := ColumnIndex.find?_ofTables.symm
      rw [List.foldl_cons]
      cases hfound :
          (ColumnIndex.ofTables (declared.map Table.ofCatalog)).find? (endpointKey many name) with
      | none =>
          have hnever (slot : Slot) : ¬IsLastSlot declared (endpointKey many name) slot := by
            rw [hmeans, hfound]
            exact nofun
          simp only [ih, List.filter_cons, hnever, decide_false, Bool.false_eq_true, if_false]
      | some target =>
          have honly (slot : Slot) :
              IsLastSlot declared (endpointKey many name) slot ↔ slot = target := by
            rw [hmeans, hfound, Option.some.injEq, eq_comm]
          simp only [addReferenceAt_withReferences, ih, List.filter_cons, honly]
          congr 1
          funext slot
          by_cases hslot : slot = target
          · simp [hslot]
          · simp [hslot]

/-- A ref of two endpoints has the sides that are found by looking at both orders. -/
theorem sides?_pair {ref : Catalog.Ref} {first second : Catalog.Endpoint}
    (hendpoints : ref.endpoints = [first, second]) : sides? ref = direction? first second := by
  have hstar : ¬some "*" = some "1" := by decide
  have hone : ¬some "1" = some "*" := by decide
  unfold sides? direction?
  rw [hendpoints]
  by_cases hfirst : first.relation = some "*"
  · by_cases hsecond : second.relation = some "1"
    · simp [hfirst, hsecond, hstar, hone]
    · by_cases hboth : second.relation = some "*"
      · simp [hfirst, hboth, hstar]
      · simp [hfirst, hsecond, hboth, hstar]
  · by_cases hsecond : second.relation = some "*"
    · by_cases hother : first.relation = some "1"
      · simp [hsecond, hother, hstar, hone]
      · simp [hfirst, hsecond, hother, hstar]
    · simp [hfirst, hsecond]

/-- A ref that does not have two endpoints has no sides. -/
theorem sides?_of_length_ne {ref : Catalog.Ref} (hlength : ref.endpoints.length ≠ 2) :
    sides? ref = none := by
  unfold sides?
  split
  · exact if_neg hlength
  · rfl

/-- Resolving a ref adds to every column what the ref says of it. -/
theorem attach_withReferences (declared : List Catalog.Table) (tables : List Table)
    (references : Slot → List Reference) (ref : Catalog.Ref) :
    attach (ColumnIndex.ofTables (declared.map Table.ofCatalog)) (withReferences tables references)
        ref =
      withReferences tables fun slot => references slot ++ refReferences declared slot ref := by
  unfold attach
  split
  case h_1 first second hendpoints =>
    simp only [refReferences, sides?_pair hendpoints]
    cases direction? first second with
    | none => simp
    | some sides =>
        obtain ⟨many, one⟩ := sides
        exact foldl_attach declared tables many many.columns (.ofRef ref one) references
  case h_2 hpair =>
    have hlength : ref.endpoints.length ≠ 2 := by
      intro htwo
      rcases hendpoints : ref.endpoints with _ | ⟨first, _ | ⟨second, _ | ⟨third, rest⟩⟩⟩
      · simp [hendpoints] at htwo
      · simp [hendpoints] at htwo
      · exact hpair first second hendpoints
      · simp [hendpoints] at htwo
    simp [refReferences, sides?_of_length_ne hlength]

/-- Resolving several refs adds to every column what the refs say of it, in their order. -/
theorem foldl_attach_withReferences (declared : List Catalog.Table) (tables : List Table)
    (refs : List Catalog.Ref) (references : Slot → List Reference) :
    refs.foldl (attach (ColumnIndex.ofTables (declared.map Table.ofCatalog)))
        (withReferences tables references) =
      withReferences tables fun slot =>
        references slot ++ refs.flatMap (refReferences declared slot) := by
  induction refs generalizing references with
  | nil => simp
  | cons ref rest ih =>
      rw [List.foldl_cons, attach_withReferences, ih]
      simp only [List.flatMap_cons, List.append_assoc]

/-- A column as linking leaves it at a slot: all but its references is its own. -/
def linkedColumn (catalog : Catalog) (slot : Slot) (record : Catalog.Column) : Column where
  name := record.name
  type :=
    { name := record.type.name, schemaName := record.type.schemaName, args := record.type.args }
  primaryKey := record.primaryKey
  unique := record.unique
  notNull := record.notNull
  autoIncrement := record.autoIncrement
  defaultValue := record.defaultValue.bind fun given =>
    match given.value, given.kind with
    | .null, none => none
    | value, kind => some { value, kind := kind.map Text.toLower }
  references := referencesAt catalog slot

/-- A table as linking leaves it at its position: of its indexes those are kept whose entries give
names for columns. -/
def linkedTable (catalog : Catalog) (position : Nat) (record : Catalog.Table) : Table where
  name := record.name
  schema := record.schema.getD "public"
  columns := record.columns.mapIdx fun columnPosition column =>
    linkedColumn catalog ⟨position, columnPosition⟩ column
  indexes := record.indexes.filterMap fun index =>
    match index.givenNames with
    | [] => none
    | columns => some { name := index.name, columns, unique := index.unique, kind := index.kind }

/-- The text that stands for a value of an enumeration. -/
def valueText : Json → String
  | .null => ""
  | .string text => text
  | value => value.render

/-- A column at a slot has what its own record converts to, and its references. -/
theorem linkedColumn_eq (catalog : Catalog) (slot : Slot) (record : Catalog.Column) :
    linkedColumn catalog slot record =
      { Column.ofCatalog record with references := referencesAt catalog slot } := by
  have hdefault (given : Catalog.Default) : DefaultValue.ofCatalog? given =
      match given.value, given.kind with
      | .null, none => none
      | value, kind => some { value, kind := kind.map Text.toLower } := by
    obtain ⟨value, kind⟩ := given
    cases value <;> cases kind <;> rfl
  simp only [linkedColumn, Column.ofCatalog, funext hdefault]

/-- A table has the indexes that its records convert to. -/
theorem indexes_linkedTable (catalog : Catalog) (position : Nat) (record : Catalog.Table) :
    (linkedTable catalog position record).indexes = record.indexes.filterMap Index.ofCatalog? := by
  refine congrArg (record.indexes.filterMap ·) (funext fun index => ?_)
  rw [Index.ofCatalog?_eq]
  cases index.givenNames <;> rfl

/-- The tables of a catalog before any ref is resolved have no references. -/
theorem map_ofCatalog_eq_withReferences (tables : List Catalog.Table) :
    tables.map Table.ofCatalog = withReferences (tables.map Table.ofCatalog) fun _ => [] := by
  apply List.ext_getElem?
  intro position
  rw [withReferences, List.getElem?_mapIdx, List.getElem?_map]
  cases tables[position]? with
  | none => rfl
  | some table =>
      rw [Option.map_some, Option.map_some, Table.ofCatalog]
      congr 2
      apply List.ext_getElem?
      intro index
      rw [List.getElem?_mapIdx, List.getElem?_map]
      cases table.columns[index]? with
      | none => rfl
      | some column => rfl

/-- The tables of a catalog with the references of its refs are its linked tables. -/
theorem withReferences_referencesAt (catalog : Catalog) :
    withReferences (catalog.tables.map Table.ofCatalog) (referencesAt catalog) =
      catalog.tables.mapIdx (linkedTable catalog) := by
  apply List.ext_getElem?
  intro position
  rw [withReferences, List.getElem?_mapIdx, List.getElem?_map, List.getElem?_mapIdx,
    Option.map_map]
  cases catalog.tables[position]? with
  | none => rfl
  | some table =>
      have hcolumns : ((table.columns.map Column.ofCatalog).mapIdx fun index column =>
          { column with references := referencesAt catalog ⟨position, index⟩ }) =
            (linkedTable catalog position table).columns := by
        apply List.ext_getElem?
        intro index
        rw [linkedTable, List.getElem?_mapIdx, List.getElem?_map, List.getElem?_mapIdx]
        cases table.columns[index]? with
        | none => rfl
        | some column =>
            exact congrArg some (linkedColumn_eq catalog ⟨position, index⟩ column).symm
      rw [Option.map_some, Option.map_some, Function.comp_apply, Table.ofCatalog, hcolumns,
        ← indexes_linkedTable catalog position]
      rfl

/-- Linking gives the linked tables of the catalog in their order. -/
theorem tables_ofCatalog (catalog : Catalog) :
    (ofCatalog catalog).tables = catalog.tables.mapIdx (linkedTable catalog) := by
  have hlinked := foldl_attach_withReferences catalog.tables
    (catalog.tables.map Table.ofCatalog) catalog.refs fun _ => []
  rw [← map_ofCatalog_eq_withReferences] at hlinked
  exact hlinked.trans (withReferences_referencesAt catalog)

/-- Linking leaves as many tables as there are records. -/
theorem length_tables_ofCatalog (catalog : Catalog) :
    (ofCatalog catalog).tables.length = catalog.tables.length := by
  rw [tables_ofCatalog, List.length_mapIdx]

/-- A table that linking leaves at a position is linked from the record at this position. -/
theorem exists_record_of_table {catalog : Catalog} {position : Nat} {table : Table}
    (htable : (ofCatalog catalog).tables[position]? = some table) :
    ∃ record, catalog.tables[position]? = some record ∧
      linkedTable catalog position record = table := by
  rwa [tables_ofCatalog, List.getElem?_mapIdx, Option.map_eq_some_iff] at htable

/-- A column of a linked table is linked from the record at its position. -/
theorem exists_record_of_column {catalog : Catalog} {position columnPosition : Nat}
    {record : Catalog.Table} {column : Column}
    (hcolumn : (linkedTable catalog position record).columns[columnPosition]? = some column) :
    ∃ declared, record.columns[columnPosition]? = some declared ∧
      linkedColumn catalog ⟨position, columnPosition⟩ declared = column := by
  rwa [linkedTable, List.getElem?_mapIdx, Option.map_eq_some_iff] at hcolumn

/-- Whatever a column refers to, it was told by the refs of the catalog. -/
theorem exists_slot_of_mem {catalog : Catalog} {table : Table} {column : Column}
    (htable : table ∈ (ofCatalog catalog).tables) (hcolumn : column ∈ table.columns) :
    ∃ slot, column.references = referencesAt catalog slot := by
  obtain ⟨position, hposition⟩ := List.mem_iff_getElem?.mp htable
  obtain ⟨record, -, rfl⟩ := exists_record_of_table hposition
  obtain ⟨columnPosition, hcolumnPosition⟩ := List.mem_iff_getElem?.mp hcolumn
  obtain ⟨declared, -, rfl⟩ := exists_record_of_column hcolumnPosition
  exact ⟨⟨position, columnPosition⟩, rfl⟩

/-- Linking a catalog, whatever is in it, gives its linked tables in the order of their records,
and under each name the last enumeration that was declared with it. -/
theorem ofCatalog_eq_linked (catalog : Catalog) :
    (ofCatalog catalog).tables = catalog.tables.mapIdx (linkedTable catalog) ∧
      ((ofCatalog catalog).enums.map Prod.fst).Nodup ∧
      ∀ name, (ofCatalog catalog).enums.lookup name =
        (catalog.enums.filter (·.name = name)).getLast?.map fun record =>
          { name := record.name, values := record.values.map valueText } := by
  refine ⟨tables_ofCatalog catalog, ?_, ?_⟩
  · exact Keyed.nodup_keys_foldl_put _ _ catalog.enums List.nodup_nil
  · intro name
    have hvalues : Catalog.scalarText = valueText := by
      funext value
      cases value <;> rfl
    have hlookup := Keyed.lookup_foldl_put (·.name) Enumeration.ofCatalog catalog.enums [] name
    rw [List.lookup_nil, Option.or_none] at hlookup
    rw [← hvalues]
    exact hlookup

end SchemaScaffold.Schema
