import SchemaScaffold.Proofs.Schema.Orientation

/-!
# When catalogs become the same schema

Of the tables of a catalog a schema keeps all that is kept of them one by one, and the references
are added to this. So catalogs whose refs have the same effect become the same tables exactly when
their tables do one by one. An end of a ref that has no token that counts is as good as none.
-/

namespace SchemaScaffold.Schema

/-- The end of a ref has no token, or an empty one. -/
def Untold (endpoint : Catalog.Endpoint) : Prop := ∀ token ∈ endpoint.relation, token = ""

/-- A ref with such an end has no direction. -/
theorem direction?_of_untold {first : Catalog.Endpoint} (huntold : Untold first)
    (second : Catalog.Endpoint) : direction? first second = none := by
  have htoken {token : String} (hne : token ≠ "") : first.relation ≠ some token :=
    fun hsame => hne (huntold token hsame)
  rw [direction?, if_neg fun h => htoken (by decide) h.1, if_neg fun h => htoken (by decide) h.1]

/-- Two ends that are the same, or of which neither has a token. -/
def Endpoint.Alike (first second : Catalog.Endpoint) : Prop :=
  second = first ∨ Untold first ∧ Untold second

/-- Such ends give a ref the same direction. -/
theorem direction?_congr {first second first' second' : Catalog.Endpoint}
    (hfirst : Endpoint.Alike first first') (hsecond : Endpoint.Alike second second') :
    direction? first' second' = direction? first second := by
  rcases hfirst with rfl | ⟨hbefore, hafter⟩
  · rcases hsecond with rfl | ⟨hbefore, hafter⟩
    · rfl
    · rw [direction?_comm, direction?_of_untold hafter, direction?_comm,
        direction?_of_untold hbefore]
  · rw [direction?_of_untold hafter, direction?_of_untold hbefore]

/-- Refs with the same actions and with such ends do the same to the tables. -/
theorem attach_congr (index : ColumnIndex) (tables : List Table) {first second : Catalog.Ref}
    (hdelete : second.onDelete = first.onDelete) (hupdate : second.onUpdate = first.onUpdate)
    (hends : List.Forall₂ Endpoint.Alike first.endpoints second.endpoints) :
    attach index tables second = attach index tables first := by
  obtain ⟨name, schema, color, onDelete, onUpdate, endpoints⟩ := first
  obtain ⟨name', schema', color', onDelete', onUpdate', endpoints'⟩ := second
  obtain rfl : onDelete' = onDelete := hdelete
  obtain rfl : onUpdate' = onUpdate := hupdate
  cases hends with
  | nil => rfl
  | @cons first first' _ _ hfirst hrest =>
      cases hrest with
      | nil => rfl
      | @cons second second' _ _ hsecond hrest =>
          cases hrest with
          | nil =>
              simp only [attach, direction?_congr hfirst hsecond]
              rfl
          | cons => rfl

/-- Of references that are given twice the later ones count. -/
theorem withReferences_withReferences (tables : List Table) (first second : Slot → List Reference) :
    withReferences (withReferences tables first) second = withReferences tables second := by
  simp only [withReferences, List.mapIdx_mapIdx, Function.comp_def]

/-- Without its references, a linked table is the table of its record. -/
theorem withReferences_tables_ofCatalog (catalog : Catalog) :
    withReferences (ofCatalog catalog).tables (fun _ => []) =
      catalog.tables.map Table.ofCatalog := by
  calc withReferences (ofCatalog catalog).tables (fun _ => [])
      = withReferences (withReferences (catalog.tables.map Table.ofCatalog)
          (referencesAt catalog)) (fun _ => []) := by
        rw [tables_ofCatalog, withReferences_referencesAt]
    _ = withReferences (catalog.tables.map Table.ofCatalog) (fun _ => []) :=
        withReferences_withReferences _ _ _
    _ = catalog.tables.map Table.ofCatalog := (map_ofCatalog_eq_withReferences _).symm

/-- When the refs of two catalogs have the same effect, the catalogs have the same linked tables
exactly when the tables of their records are the same. -/
theorem tables_ofCatalog_eq_iff {first second : Catalog}
    (hrefs : ∀ index tables,
      second.refs.foldl (attach index) tables = first.refs.foldl (attach index) tables) :
    (ofCatalog second).tables = (ofCatalog first).tables ↔
      second.tables.map Table.ofCatalog = first.tables.map Table.ofCatalog := by
  constructor
  · intro hsame
    rw [← withReferences_tables_ofCatalog, hsame, withReferences_tables_ofCatalog]
  · intro hsame
    rw [ofCatalog, ofCatalog, hsame]
    exact hrefs _ _

end SchemaScaffold.Schema
