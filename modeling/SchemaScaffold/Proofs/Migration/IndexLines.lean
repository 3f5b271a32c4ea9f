import SchemaScaffold.Proofs.Migration.Column
import SchemaScaffold.Proofs.Php.Sequence
import SchemaScaffold.Proofs.Schema.IndexNames
import SchemaScaffold.Proofs.Schema.Linking
import SchemaScaffold.Proofs.Stub.Rendering

/-!
# What the statements of the indexes say

An index is declared with entries for its columns, some of which may name none, and some indexes
only repeat the primary key. Linking leaves out the entries without a name and the indexes that
have no other entries, rendering leaves out the primary keys, and what remains is written one
statement after another. Here the whole fragment is read back: it holds one statement for each
declared index that names a column and is no primary key, in the order of their declaration, and
each statement says what its record says. The fragment is filled in last, so that it stands in the
migration as it was written, whatever texts are in it.
-/

namespace SchemaScaffold.Catalog

/-- The index has a statement of its own: it names a column and is no primary key. -/
def Index.IsWritten (index : Index) : Prop :=
  index.givenNames ≠ [] ∧ index.kind ≠ some "pk" ∧ index.kind ≠ some "primary"

instance (index : Index) : Decidable index.IsWritten :=
  inferInstanceAs (Decidable (_ ∧ _ ∧ _))

end SchemaScaffold.Catalog

namespace SchemaScaffold.Migration

open Php (Argument MethodCall Statement)
open Schema (Index ofCatalog linkedTable)
open Stub (packagedLoader)

/-- What the statement of an index says: the names of its columns, and its own name if it has
one. -/
def indexCall (index : Index) : MethodCall where
  method := if index.unique then "unique" else "index"
  arguments := .texts index.columns :: index.name.toList.map .text

/-- What the statement of a declared index says. -/
def declaredIndexCall (record : Catalog.Index) : MethodCall where
  method := if record.unique then "unique" else "index"
  arguments := .texts record.givenNames :: record.name.toList.map .text

/-- The statement of an index is the text of its call. -/
theorem indexStatement_eq (index : Index) :
    indexStatement index =
      Php.chain ("$" ++ "table") ([indexCall index].map MethodCall.toCall) := by
  have harguments : (indexCall index).arguments.map Argument.render =
      Php.listLiteral index.columns :: (index.name.map Php.literal).toList := by
    obtain ⟨name, columns, unique, kind⟩ := index
    cases name <;> rfl
  rw [indexStatement, List.map_singleton, MethodCall.toCall, harguments]
  rfl

/-- The words of the call are bare words. -/
theorem indexCall_wellFormed (index : Index) : (indexCall index).WellFormed := by
  constructor
  · show Php.IsBareWord (if index.unique then "unique" else "index")
    split <;> decide +kernel
  · intro argument hargument
    rcases List.mem_cons.mp hargument with rfl | hname
    · trivial
    · obtain ⟨name, -, rfl⟩ := List.mem_map.mp hname
      trivial

/-- The fragment of the indexes is read as one statement for each index that is written. -/
theorem listOfText?_indexes (table : Schema.Table) :
    Statement.listOfText? (indexes table) =
      some ((table.indexes.filter (·.isRenderable)).map fun index =>
        { receiver := "table", calls := [indexCall index] }) := by
  have hgap : ∀ c ∈ ("\n" ++ indent).toList, Php.isGap c = true :=
    List.all_eq_true.mp (by decide +kernel)
  have htable : ∀ c ∈ "table".toList, Php.isNameChar c = true :=
    List.all_eq_true.mp (by decide +kernel)
  have hcalls : ∀ calls ∈ (table.indexes.filter (·.isRenderable)).map fun index =>
      [indexCall index], ∀ call ∈ calls, call.WellFormed := by
    intro calls hcalls call hcall
    obtain ⟨index, -, rfl⟩ := List.mem_map.mp hcalls
    obtain rfl := List.mem_singleton.mp hcall
    exact indexCall_wellFormed index
  have hread := Statement.listOfText?_join hgap htable hcalls
  simp only [List.map_map, Function.comp_def, ← indexStatement_eq, String.ofList_toList] at hread
  exact hread

/-- An index is written exactly when its record names a column and is no primary key, and then its
statement says what the record says. -/
theorem map_indexCall_ofCatalog? (record : Catalog.Index) :
    ((Index.ofCatalog? record).filter (·.isRenderable)).map indexCall =
      if record.IsWritten then some (declaredIndexCall record) else none := by
  rw [Schema.Index.ofCatalog?_eq]
  by_cases hnames : record.givenNames = []
  · have hunwritten : ¬record.IsWritten := fun hwritten => hwritten.1 hnames
    rw [if_neg hunwritten, if_pos hnames]
    rfl
  · have hrenderable : Index.isRenderable
        { name := record.name, columns := record.givenNames, unique := record.unique
          kind := record.kind } = decide record.IsWritten := by
      rw [Bool.eq_iff_iff, decide_eq_true_iff]
      simp [Index.isRenderable, Index.isPrimary, Catalog.Index.IsWritten, hnames]
    rw [if_neg hnames, Option.filter_some, hrenderable]
    by_cases hwritten : record.IsWritten
    · rw [if_pos hwritten, if_pos (decide_eq_true hwritten)]
      rfl
    · rw [if_neg hwritten, if_neg (by simpa using hwritten)]
      rfl

/-- The statements of all indexes of a table, in terms of their records. -/
theorem map_indexCall_filterMap_ofCatalog? (records : List Catalog.Index) :
    ((records.filterMap Index.ofCatalog?).filter (·.isRenderable)).map indexCall =
      (records.filter (·.IsWritten)).map declaredIndexCall := by
  rw [List.filter_filterMap, List.map_filterMap]
  simp only [map_indexCall_ofCatalog?]
  rw [← List.filterMap_eq_map, List.filterMap_filter]
  simp

/-- The fragment of the indexes stands in the migration as it was written: its place is the last
to be filled. -/
theorem infix_render_packaged_indexes (schema : Schema) (table : Schema.Table) :
    ∃ rendered, render packagedLoader schema table = .ok rendered ∧
      (indexes table).toList <:+: rendered.contents.toList := by
  refine ⟨_, render_packaged schema table, ?_⟩
  rw [fill_placeValues]
  have hplace : .place "indexes" ∈
      Stub.cut ((Stub.settled (placeValues table schema)).map Prod.fst) Stub.packagedMigration := by
    rw [Stub.map_fst_settled]
    exact clean_packagedMigration.present "indexes" (by simp [placeNames])
  have hvalue : Stub.valueOf (Stub.settled (placeValues table schema)) "indexes" =
      (indexes table).toList := by
    simp [Stub.valueOf, Stub.settled, placeValues, List.lookup_cons, Stub.fill]
  rw [← hvalue]
  exact Stub.valueOf_infix_fillAtOnce hplace

/-- For every table of a catalog, in their order, the fragment of the indexes is read as one
statement for each declared index that names a column and is no primary key, in the order of the
records. Each is a single call on `$table`, of `unique` if the record says so and of `index`
otherwise, with the given names of the columns in their order and then the name of the index if it
has one. The fragment stands in the migration of the table as it is. -/
theorem listOfText?_indexes_ofCatalog (catalog : Catalog) :
    ((ofCatalog catalog).tables.map fun table => Statement.listOfText? (indexes table)) =
        (catalog.tables.map fun record =>
          some ((record.indexes.filter (·.IsWritten)).map fun index =>
            { receiver := "table", calls := [declaredIndexCall index] })) ∧
      ∀ table ∈ (ofCatalog catalog).tables, ∃ rendered,
        render packagedLoader (ofCatalog catalog) table = .ok rendered ∧
          (indexes table).toList <:+: rendered.contents.toList := by
  refine ⟨?_, fun table _ => infix_render_packaged_indexes (ofCatalog catalog) table⟩
  apply List.ext_getElem?
  intro position
  rw [Schema.tables_ofCatalog, List.getElem?_map, List.getElem?_mapIdx, List.getElem?_map,
    Option.map_map]
  congr 1
  funext record
  have hcalls := congrArg
    (List.map fun call => ({ receiver := "table", calls := [call] } : Statement))
    (map_indexCall_filterMap_ofCatalog? record.indexes)
  rw [List.map_map, List.map_map] at hcalls
  rw [Function.comp_apply, listOfText?_indexes, Schema.indexes_linkedTable]
  exact congrArg some hcalls

end SchemaScaffold.Migration
