import SchemaScaffold.Proofs.Migration.ForeignKey
import SchemaScaffold.Proofs.Schema.Orientation
import SchemaScaffold.Proofs.Text.Wording

/-!
# The target of a reference, by the spelling of the ref

A ref may spell the table it leads to with other capitals than the table was declared with, and
where a reference is compared with a table the case of ASCII letters does not count. But what a
column says of its target is derived from the spelling of the ref and not from the table. The
constraint of the column names the table if and only if the ref spells it as it was declared. The
relationship leads to the class of the table when the spelling is cut into words at the same places,
because only the words of a name count for its class.
-/

namespace SchemaScaffold.Migration

open Relationship (MadeBy)
open Schema (Column Table ofCatalog)
open Text (CutAlike eqIgnoringAsciiCase)

/-- Spellings that are cut alike lead to the same class. -/
theorem modelName_eq_of_cutAlike {first second : String}
    (hcase : eqIgnoringAsciiCase first second = true) (hcut : CutAlike first second) :
    Convention.modelName first = Convention.modelName second := by
  rw [Convention.modelName, Text.snakeCase_eq_of_cutAlike hcase hcut, Convention.modelName]

/-- A constraint names the table of the relationship that its column makes. -/
theorem table_of_constrainedTo? {names : Convention} {schema : Schema} {table : Table}
    {column : Column} {relationship : Relationship} {named : String × String}
    (hmade : MadeBy names table column relationship)
    (hnamed : constrainedTo? (columnStatement column schema) = some named) :
    named.1 = relationship.table := by
  rw [constrainedTo?_of_madeBy hmade] at hnamed
  obtain ⟨-, hfound⟩ := Option.ite_none_right_eq_some.mp hnamed
  rw [← Option.some.inj hfound, Relationship.target]

/-- A relationship to one row of a linked catalog has the name of its target from the one side of a
ref, as it is spelt there, and its class is the one for this spelling. For every table whose name
differs in the case of ASCII letters at most, this is the class of the table if the spelling is cut
into words at the same places, and the constraint of the column, if it has one, names the table if
and only if the spelling is that of the table. -/
theorem names_target_iff_spelt {catalog : Catalog} {source : Table} {column : Column}
    {relationship : Relationship} (hsource : source ∈ (ofCatalog catalog).tables)
    (hmade : MadeBy .eloquent source column relationship) {target : Table}
    (hsame : eqIgnoringAsciiCase relationship.table target.name = true) :
    (∃ ref ∈ catalog.refs, ∃ one ∈ ref.endpoints,
        one.relation = some "1" ∧ relationship.table = one.table) ∧
      relationship.model = Convention.modelName relationship.table ∧
      (CutAlike relationship.table target.name →
        relationship.model = Convention.modelName target.name) ∧
      ∀ named, constrainedTo? (columnStatement column (ofCatalog catalog)) = some named →
        (named.1 = target.name ↔ relationship.table = target.name) := by
  obtain ⟨reference, _, hcolumn, hreference, hmakes⟩ := hmade.exists_makes
  have hmodel : relationship.model = Convention.modelName relationship.table := hmade.model_eq
  refine ⟨?_, hmodel, fun hcut => ?_, fun named hnamed => ?_⟩
  · obtain ⟨ref, href, one, hmem, hone, hleft⟩ :=
      Schema.exists_one_of_mem_references hsource hcolumn (List.mem_of_mem_head? hreference)
    exact ⟨ref, href, one, hmem, hone, hmakes.table.trans (congrArg (·.table) hleft)⟩
  · rw [hmodel, modelName_eq_of_cutAlike hsame hcut]
  · rw [table_of_constrainedTo? hmade hnamed]

/-- Comments on posts, by a ref that spells the table of the posts without its capitals. -/
def lowerCaseRef : Catalog where
  tables :=
    [{ name := "comments", columns := [{ name := "post_id" }] },
     { name := "BlogPosts", columns := [{ name := "id" }] }]
  refs :=
    [{ endpoints :=
        [{ table := "comments", columns := ["post_id"], relation := some "*" },
         { table := "blogposts", columns := ["id"], relation := some "1" }] }]

/-- The comments belong to another class than that of the posts, and their constraint does not spell
the table of the posts as it was declared. -/
theorem comments_miss_blogPosts :
    ∃ comments ∈ (ofCatalog lowerCaseRef).tables, ∃ column ∈ comments.columns,
      ∃ posts ∈ (ofCatalog lowerCaseRef).tables, ∃ relationship named,
        MadeBy .eloquent comments column relationship ∧
          eqIgnoringAsciiCase relationship.table posts.name = true ∧
          relationship.model = "Blogpost" ∧ Convention.modelName posts.name = "BlogPost" ∧
          constrainedTo? (columnStatement column (ofCatalog lowerCaseRef)) = some named ∧
          named.1 ≠ posts.name := by
  obtain ⟨posts, hposts, hname⟩ :
      ∃ posts ∈ (ofCatalog lowerCaseRef).tables, posts.name = "BlogPosts" := by
    decide +kernel
  obtain ⟨comments, hcomments, relationship, hmem, htable⟩ :
      ∃ comments ∈ (ofCatalog lowerCaseRef).tables,
        ∃ relationship ∈ Relationship.belongsTo .eloquent comments,
          relationship.table = "blogposts" := by
    decide +kernel
  obtain ⟨column, hcolumn, hmade⟩ := Relationship.exists_column_of_mem_belongsTo hmem
  have hsame : eqIgnoringAsciiCase relationship.table posts.name = true := by
    rw [htable, hname]
    decide +kernel
  obtain ⟨-, hmodel, -, hnames⟩ := names_target_iff_spelt hcomments hmade hsame
  have hforeign : ∀ table ∈ (ofCatalog lowerCaseRef).tables, ∀ column ∈ table.columns,
      column.references ≠ [] → IsForeignKey column (ofCatalog lowerCaseRef) := by
    decide +kernel
  have hsome := (Relationship.exists_madeBy_iff hcolumn).mp ⟨relationship, hmade⟩
  have hconstrained : constrainedTo? (columnStatement column (ofCatalog lowerCaseRef)) =
      some relationship.target := by
    rw [constrainedTo?_of_madeBy hmade, if_pos (hforeign _ hcomments _ hcolumn hsome)]
  refine ⟨comments, hcomments, column, hcolumn, posts, hposts, relationship, _, hmade, hsame, ?_,
    ?_, hconstrained, ?_⟩
  · rw [hmodel, htable]
    decide +kernel
  · rw [hname]
    decide +kernel
  · rw [Ne, hnames _ hconstrained, htable, hname]
    decide

end SchemaScaffold.Migration
