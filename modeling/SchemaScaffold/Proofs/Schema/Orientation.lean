import Mathlib.Data.List.Basic
import SchemaScaffold.Artifacts
import SchemaScaffold.Proofs.Schema.Origin

/-!
# Refs read from either end

A ref of two endpoints may list them in either order. Which of them is the many side is told by
their relation tokens alone, whatever the tokens are, so turning a ref around changes neither its
sides nor anything that it leaves at a column. Any refs of a catalog may be turned, and the schema
stays the same with all that is written from it.
-/

namespace SchemaScaffold

/-- A ref of two endpoints told from its other end. Other refs stay as they are. -/
def Catalog.Ref.turned (ref : Catalog.Ref) : Catalog.Ref :=
  if ref.endpoints.length = 2 then { ref with endpoints := ref.endpoints.reverse } else ref

/-- A catalog with the refs at the chosen positions told from their other ends. -/
def Catalog.turnedAt (catalog : Catalog) (chosen : Nat → Bool) : Catalog :=
  { catalog with
    refs := catalog.refs.mapIdx fun position ref =>
      if chosen position then ref.turned else ref }

namespace Schema

/-- Endpoints have the same sides in either order. -/
theorem direction?_comm (first second : Catalog.Endpoint) :
    direction? first second = direction? second first := by
  have htokens (relation : Option String) (hstar : relation = some "*")
      (hone : relation = some "1") : False := by
    rw [hstar] at hone
    exact absurd hone (by decide)
  unfold direction?
  by_cases hfirst : first.relation = some "*" ∧ second.relation = some "1"
  · have hother : ¬(second.relation = some "*" ∧ first.relation = some "1") :=
      fun h => htokens _ hfirst.1 h.2
    rw [if_pos hfirst, if_neg hother, if_pos hfirst.symm]
  · by_cases hsecond : second.relation = some "*" ∧ first.relation = some "1"
    · rw [if_neg hfirst, if_pos hsecond.symm, if_pos hsecond]
    · rw [if_neg hfirst, if_neg fun h => hsecond h.symm, if_neg hsecond,
        if_neg fun h => hfirst h.symm]

/-- The sides of a ref are its two endpoints, told apart by their tokens. -/
theorem direction?_eq_some_iff {first second many one : Catalog.Endpoint} :
    direction? first second = some (many, one) ↔
      ([first, second] = [many, one] ∨ [first, second] = [one, many]) ∧
        many.relation = some "*" ∧ one.relation = some "1" := by
  constructor
  · unfold direction?
    intro hsides
    split at hsides
    case isTrue hfirst =>
      cases hsides
      exact ⟨Or.inl rfl, hfirst⟩
    case isFalse =>
      split at hsides
      case isTrue hsecond =>
        cases hsides
        exact ⟨Or.inr rfl, hsecond.symm⟩
      case isFalse => cases hsides
  · rintro ⟨hsame | hsame, hmany, hone⟩
    · cases hsame
      rw [direction?, if_pos ⟨hmany, hone⟩]
    · cases hsame
      rw [direction?_comm, direction?, if_pos ⟨hmany, hone⟩]

/-- A ref has sides exactly when it has two endpoints, in either order, one of which is tagged as
the many side and the other as the one side. -/
theorem sides?_eq_some_iff {ref : Catalog.Ref} {many one : Catalog.Endpoint} :
    sides? ref = some (many, one) ↔
      (ref.endpoints = [many, one] ∨ ref.endpoints = [one, many]) ∧
        many.relation = some "*" ∧ one.relation = some "1" := by
  by_cases hlength : ref.endpoints.length = 2
  · obtain ⟨first, second, hendpoints⟩ := List.length_eq_two.mp hlength
    rw [sides?_pair hendpoints, hendpoints]
    exact direction?_eq_some_iff
  · rw [sides?_of_length_ne hlength]
    refine iff_of_false nofun ?_
    rintro ⟨hsame | hsame, -⟩
    · exact hlength (hsame ▸ rfl)
    · exact hlength (hsame ▸ rfl)

/-- Resolving a ref that is told from its other end does the same to the tables. -/
theorem attach_turned (index : ColumnIndex) (tables : List Table) (ref : Catalog.Ref) :
    attach index tables ref.turned = attach index tables ref := by
  by_cases hlength : ref.endpoints.length = 2
  · obtain ⟨first, second, hendpoints⟩ := List.length_eq_two.mp hlength
    have hturned : ref.turned = { ref with endpoints := [second, first] } := by
      rw [Catalog.Ref.turned, if_pos hlength, hendpoints]
      rfl
    simp only [hturned, attach, hendpoints, direction?_comm second first]
    rfl
  · rw [Catalog.Ref.turned, if_neg hlength]

/-- Resolving refs one after another does the same when some of them are turned. -/
theorem foldl_attach_turned (index : ColumnIndex) (chosen : Nat → Bool) (refs : List Catalog.Ref)
    (tables : List Table) :
    (refs.mapIdx fun position ref => if chosen position then ref.turned else ref).foldl
        (attach index) tables = refs.foldl (attach index) tables := by
  induction refs generalizing chosen tables with
  | nil => rfl
  | cons ref rest ih =>
      have hfirst : attach index tables (if chosen 0 then ref.turned else ref) =
          attach index tables ref := by
        split
        · exact attach_turned index tables ref
        · rfl
      rw [List.mapIdx_cons, List.foldl_cons, List.foldl_cons, hfirst]
      exact ih (fun position => chosen (position + 1)) (attach index tables ref)

/-- Linking does not see from which ends the refs are told. -/
theorem ofCatalog_turned (catalog : Catalog) (chosen : Nat → Bool) :
    ofCatalog (catalog.turnedAt chosen) = ofCatalog catalog := by
  have htables := foldl_attach_turned
    (ColumnIndex.ofTables (catalog.tables.map Table.ofCatalog)) chosen catalog.refs
    (catalog.tables.map Table.ofCatalog)
  rw [ofCatalog, ofCatalog, Schema.mk.injEq]
  exact ⟨htables, rfl⟩

/-- A reference of a column comes from a ref of two endpoints, one of them tagged as the many side
and the other as the one side, where the many side names the column. -/
theorem exists_ref_of_mem_references {catalog : Catalog} {table : Table} {column : Column}
    {reference : Reference} (htable : table ∈ (ofCatalog catalog).tables)
    (hcolumn : column ∈ table.columns) (hreference : reference ∈ column.references) :
    ∃ ref ∈ catalog.refs, ∃ many one : Catalog.Endpoint,
      (ref.endpoints = [many, one] ∨ ref.endpoints = [one, many]) ∧
        many.relation = some "*" ∧ one.relation = some "1" ∧ reference = .ofRef ref one ∧
        ∃ name ∈ many.columns,
          endpointKey many name = columnKey table.schema table.name column.name := by
  obtain ⟨position, hposition⟩ := List.mem_iff_getElem?.mp htable
  obtain ⟨record, hrecord, rfl⟩ := exists_record_of_table hposition
  obtain ⟨columnPosition, hcolumnPosition⟩ := List.mem_iff_getElem?.mp hcolumn
  obtain ⟨declared, hdeclared, rfl⟩ := exists_record_of_column hcolumnPosition
  have hmem : reference ∈ referencesAt catalog ⟨position, columnPosition⟩ := hreference
  rw [referencesAt_eq_map_originsAt] at hmem
  obtain ⟨origin, horigin, rfl⟩ := List.mem_map.mp hmem
  obtain ⟨href, hsides, hname, ⟨found, foundColumn, hfound, hfoundColumn, hkey⟩, -⟩ :=
    mem_originsAt.mp horigin
  obtain rfl : record = found := Option.some.inj (hrecord.symm.trans hfound)
  obtain rfl : declared = foundColumn := Option.some.inj (hdeclared.symm.trans hfoundColumn)
  obtain ⟨hendpoints, hmany, hone⟩ := sides?_eq_some_iff.mp hsides
  exact ⟨origin.ref, href, origin.many, origin.one, hendpoints, hmany, hone, rfl, origin.name,
    hname, hkey.symm⟩

/-- A reference of a linked column comes from the one side of a ref. -/
theorem exists_one_of_mem_references {catalog : Catalog} {table : Table} {column : Column}
    {reference : Reference} (htable : table ∈ (ofCatalog catalog).tables)
    (hcolumn : column ∈ table.columns) (hreference : reference ∈ column.references) :
    ∃ ref ∈ catalog.refs, ∃ one ∈ ref.endpoints,
      one.relation = some "1" ∧ reference = .ofRef ref one := by
  obtain ⟨ref, href, many, one, hendpoints, -, hone, hmade, -⟩ :=
    exists_ref_of_mem_references htable hcolumn hreference
  refine ⟨ref, href, one, ?_, hone, hmade⟩
  rcases hendpoints with hpair | hpair
  · simp [hpair]
  · simp [hpair]

/-- Whichever refs of a catalog are told from their other ends, it is linked to the same schema, and
so its tables have the same relationships, models and migrations. A column has a reference only if a
ref names the column on an endpoint with the token of the many side and the other one of its two
endpoints has the token of the one side. -/
theorem ofCatalog_turnedAt (catalog : Catalog) (chosen : Nat → Bool) :
    ofCatalog (catalog.turnedAt chosen) = ofCatalog catalog ∧
      (∀ names, (ofCatalog (catalog.turnedAt chosen)).tables.map
          (Relationship.all names · (ofCatalog (catalog.turnedAt chosen))) =
        (ofCatalog catalog).tables.map (Relationship.all names · (ofCatalog catalog))) ∧
      (∀ loader, Artifacts.ofSchema loader (ofCatalog (catalog.turnedAt chosen)) =
        Artifacts.ofSchema loader (ofCatalog catalog)) ∧
      ∀ table ∈ (ofCatalog catalog).tables, ∀ column ∈ table.columns,
        ∀ reference ∈ column.references,
          ∃ ref ∈ catalog.refs, ∃ many one : Catalog.Endpoint,
            (ref.endpoints = [many, one] ∨ ref.endpoints = [one, many]) ∧
              many.relation = some "*" ∧ one.relation = some "1" ∧ reference = .ofRef ref one ∧
              ∃ name ∈ many.columns,
                endpointKey many name = columnKey table.schema table.name column.name := by
  refine ⟨ofCatalog_turned catalog chosen, fun names => ?_, fun loader => ?_, ?_⟩
  · rw [ofCatalog_turned]
  · rw [ofCatalog_turned]
  · intro table htable column hcolumn reference hreference
    exact exists_ref_of_mem_references htable hcolumn hreference

end Schema

end SchemaScaffold
