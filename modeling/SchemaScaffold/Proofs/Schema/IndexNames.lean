import SchemaScaffold.Schema.Link

/-!
# What linking keeps of an index

The entries of an index may name a column or not. Linking keeps the names that are given and, if
there are any, what else the record says; two records become the same index exactly when they
agree on all of this.
-/

namespace SchemaScaffold.Catalog

/-- The name that an entry gives, if it gives one: a bare text, the name of an object, or its value
when it has no name. An empty text names nothing. -/
def IndexColumn.given? : IndexColumn → Option String
  | .bare name | .described (some name) _ | .described none (some name) =>
    if name = "" then none else some name
  | .described none none => none

/-- The names that an index gives for its columns, in their order. -/
def Index.givenNames (index : Index) : List String := index.columns.filterMap (·.given?)

/-- An entry gives its name unless this is empty. -/
theorem IndexColumn.given?_eq (column : IndexColumn) :
    column.given? = if column.columnName = "" then none else some column.columnName := by
  match column with
  | .bare name => rfl
  | .described (some name) _ => rfl
  | .described none (some name) => rfl
  | .described none none => rfl

/-- The names that are kept of an index are those that its entries give. -/
theorem Index.filter_columnName (index : Index) :
    (index.columns.map (·.columnName)).filter (· ≠ "") = index.givenNames := by
  rw [Index.givenNames]
  induction index.columns with
  | nil => rfl
  | cons column rest ih =>
      rw [List.map_cons, List.filter_cons, List.filterMap_cons, IndexColumn.given?_eq, ih]
      by_cases hempty : column.columnName = ""
      · simp [hempty]
      · simp [hempty]

end SchemaScaffold.Catalog

namespace SchemaScaffold.Schema

/-- Linking keeps an index when its entries give a name. -/
theorem Index.ofCatalog?_eq (record : Catalog.Index) :
    Index.ofCatalog? record =
      if record.givenNames = [] then none
      else some
        { name := record.name, columns := record.givenNames, unique := record.unique
          kind := record.kind } := by
  simp only [Index.ofCatalog?, record.filter_columnName, List.isEmpty_iff]

/-- Two records become the same index, or both none, exactly when the same names are given and, if
there are any, the records agree on the rest. -/
theorem Index.ofCatalog?_eq_iff (first second : Catalog.Index) :
    Index.ofCatalog? first = Index.ofCatalog? second ↔
      first.givenNames = second.givenNames ∧
        (second.givenNames ≠ [] → first.name = second.name ∧ first.kind = second.kind ∧
          first.unique = second.unique) := by
  rw [Index.ofCatalog?_eq, Index.ofCatalog?_eq]
  by_cases hfirst : first.givenNames = []
  · rw [if_pos hfirst, hfirst]
    by_cases hsecond : second.givenNames = []
    · simp [hsecond]
    · simp [hsecond, Ne.symm hsecond]
  · rw [if_neg hfirst]
    by_cases hsecond : second.givenNames = []
    · simp [hsecond, hfirst]
    · rw [if_neg hsecond, Option.some.injEq, Index.mk.injEq]
      constructor
      · rintro ⟨hname, hnames, hunique, hkind⟩
        exact ⟨hnames, fun _ => ⟨hname, hkind, hunique⟩⟩
      · rintro ⟨hnames, hrest⟩
        obtain ⟨hname, hkind, hunique⟩ := hrest hsecond
        exact ⟨hname, hnames, hunique, hkind⟩

end SchemaScaffold.Schema
