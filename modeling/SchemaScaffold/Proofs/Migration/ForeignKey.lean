import SchemaScaffold.Proofs.Migration.Column
import SchemaScaffold.Proofs.Relationship.Distinct
import SchemaScaffold.Proofs.Relationship.Search
import SchemaScaffold.Schema.Link

/-!
# Foreign keys in the model and in the migration

A reference of a column shows in two places: the model has a relationship to one row for it, and
the migration may declare the column as a foreign key with a constraint. The two are decided apart.
The model looks at the reference alone, while the migration first creates keys that count up and
columns of enumerations in their own ways. So every constraint comes with its relationship, and both
lead to the same column of the same table; but a relationship lacks its constraint where the column
counts up or where its type stands for an enumeration, and only there.
-/

namespace SchemaScaffold

open Schema (Column Reference Table)

namespace Relationship

/-- The table and the column that a relationship leads to. The column is the usual one unless the
relationship has a key. -/
def target (relationship : Relationship) : String × String :=
  (relationship.table, relationship.key.getD "id")

/-- The column makes the relationship to one row: the two stand at the same position, one among the
columns with a reference and the other among the relationships of the table. -/
def MadeBy (names : Convention) (table : Table) (column : Column) (relationship : Relationship) :
    Prop :=
  ∃ (position : Nat) (reference : Reference),
    (firstReferences table.columns)[position]? = some (column, reference) ∧
      (belongsTo names table)[position]? = some relationship

variable {names : Convention} {table : Table} {column : Column} {relationship : Relationship}

/-- The columns with a reference are those that have a first one. -/
theorem mem_firstReferences {columns : List Column} {reference : Reference} :
    (column, reference) ∈ firstReferences columns ↔
      column ∈ columns ∧ column.foreignKey = some reference := by
  simp only [firstReferences, List.mem_filterMap, Option.map_eq_some_iff, Prod.mk.injEq]
  constructor
  · rintro ⟨_, hmem, _, hforeign, rfl, rfl⟩
    exact ⟨hmem, hforeign⟩
  · rintro ⟨hmem, hforeign⟩
    exact ⟨column, hmem, reference, hforeign, rfl, rfl⟩

/-- A relationship leads where the reference leads that it is made from. -/
theorem Makes.target_eq {used : List String} {reference : Reference}
    (hmakes : Makes names used column reference relationship) :
    relationship.target = (reference.table, reference.target) := by
  have hcolumn : relationship.key.getD "id" = reference.target := by
    rw [hmakes.key]
    split
    case isTrue husual => exact husual.symm
    case isFalse => rfl
  rw [target, hmakes.table, hcolumn]

/-- A column makes its relationship from its first reference. -/
theorem MadeBy.exists_makes (hmade : MadeBy names table column relationship) :
    ∃ reference used, column ∈ table.columns ∧ column.foreignKey = some reference ∧
      Makes names used column reference relationship := by
  obtain ⟨position, reference, hposition, hrelationship⟩ := hmade
  obtain ⟨found, hfound, hmakes⟩ := Relationship.exists_makes names [] hposition
  obtain rfl : relationship = found := Option.some.inj (hrelationship.symm.trans hfound)
  obtain ⟨hcolumn, hforeign⟩ := mem_firstReferences.mp (List.mem_of_getElem? hposition)
  exact ⟨reference, _, hcolumn, hforeign, hmakes⟩

/-- The class that a relationship leads to is the one for its table. -/
theorem MadeBy.model_eq (hmade : MadeBy names table column relationship) :
    relationship.model = names.model relationship.table := by
  obtain ⟨reference, _, -, -, hmakes⟩ := hmade.exists_makes
  rw [hmakes.model, hmakes.table]

/-- Every column with a reference makes a relationship. -/
theorem exists_madeBy {reference : Reference} (hcolumn : column ∈ table.columns)
    (hforeign : column.foreignKey = some reference) :
    ∃ relationship, MadeBy names table column relationship := by
  have hmem := mem_firstReferences.mpr ⟨hcolumn, hforeign⟩
  obtain ⟨position, hposition⟩ := List.mem_iff_getElem?.mp hmem
  obtain ⟨relationship, hrelationship, -⟩ := Relationship.exists_makes names [] hposition
  exact ⟨relationship, position, reference, hposition, hrelationship⟩

/-- The columns that make relationships are those with a reference. -/
theorem exists_madeBy_iff (hcolumn : column ∈ table.columns) :
    (∃ relationship, MadeBy names table column relationship) ↔ column.references ≠ [] := by
  constructor
  · rintro ⟨relationship, hmade⟩ hnone
    obtain ⟨reference, _, -, hforeign, -⟩ := hmade.exists_makes
    rw [Column.foreignKey, hnone] at hforeign
    cases hforeign
  · intro hsome
    obtain ⟨reference, others, hreferences⟩ := List.exists_cons_of_ne_nil hsome
    exact exists_madeBy hcolumn (by rw [Column.foreignKey, hreferences, List.head?_cons])

/-- Every relationship to one row is made by a column. -/
theorem exists_column_of_mem_belongsTo (hmem : relationship ∈ belongsTo names table) :
    ∃ column ∈ table.columns, MadeBy names table column relationship := by
  obtain ⟨position, hposition⟩ := List.mem_iff_getElem?.mp hmem
  obtain ⟨hlt, -⟩ := List.getElem?_eq_some_iff.mp hposition
  rw [belongsTo, length_belongsToFrom] at hlt
  have hpair := List.getElem?_eq_getElem hlt
  obtain ⟨hcolumn, -⟩ := mem_firstReferences.mp (List.mem_of_getElem? hpair)
  exact ⟨_, hcolumn, position, _, hpair, hposition⟩

end Relationship

namespace Migration

open Php (MethodCall Statement)
open Relationship (MadeBy)

/-- The table and the column that a constraint leads to. The column is the usual one when only the
table is named. -/
def constraintTarget? (call : MethodCall) : Option (String × String) :=
  if call.method = "constrained" then
    match call.arguments with
    | [.text table] => some (table, "id")
    | [.text table, .text column] => some (table, column)
    | _ => none
  else none

/-- Where the first constraint of a line leads, if the line reads back and has one. -/
def constrainedTo? (line : String) : Option (String × String) :=
  (Statement.ofText? line).bind fun statement => statement.calls.findSome? constraintTarget?

/-- The call that declares a column is no constraint. -/
theorem constraintTarget?_baseCall (column : Column) (schema : Schema) :
    constraintTarget? (baseCall column schema) = none := by
  have hincrements : incrementsMethod column.type ≠ "constrained" := by
    unfold incrementsMethod
    split <;> decide
  have hstorage (storage : Storage) : storage.method ≠ "constrained" := by
    cases storage <;> simp only [Storage.method] <;> decide
  refine if_neg ?_
  rcases baseCall_method_cases column schema with
    ⟨-, hmethod⟩ | ⟨-, hmethod | hmethod⟩ | ⟨-, -, storage, hmethod⟩
  · exact hmethod ▸ hincrements
  · exact hmethod ▸ by decide
  · exact hmethod ▸ by decide
  · exact hmethod ▸ hstorage storage

/-- No modifier is a constraint. -/
theorem constraintTarget?_of_mem_modifierCalls {column : Column} {call : MethodCall}
    (hcall : call ∈ modifierCalls column) : constraintTarget? call = none := by
  obtain rfl | ⟨default, rfl⟩ | rfl | ⟨-, rfl⟩ := modifier_cases hcall
  · exact if_neg (by decide : "nullable" ≠ "constrained")
  · exact if_neg (by decide : "default" ≠ "constrained")
  · exact if_neg (by decide : "unique" ≠ "constrained")
  · exact if_neg (by decide : "primary" ≠ "constrained")

/-- The calls for a reference start with a constraint that leads where the reference leads. -/
theorem findSome?_referenceCalls (reference : Reference) :
    (referenceCalls reference).findSome? constraintTarget? =
      some (reference.table, reference.target) := by
  have hfirst : constraintTarget?
      { method := "constrained"
        arguments := .text reference.table ::
          if reference.column.getD "id" = "id" then []
          else [.text (reference.column.getD "id")] } = some (reference.table, reference.target) := by
    rw [Reference.target, Schema.defaultTarget]
    by_cases husual : reference.column.getD "id" = "id"
    · simp [constraintTarget?, husual]
    · simp [constraintTarget?, husual]
  simp only [referenceCalls, List.append_assoc, List.cons_append, List.findSome?_cons, hfirst]

/-- The line of a column has a constraint exactly when it declares a foreign key, and then the
constraint leads where the first reference of the column leads. -/
theorem constrainedTo?_columnStatement (column : Column) (schema : Schema) :
    constrainedTo? (columnStatement column schema) =
      if IsForeignKey column schema then
        column.foreignKey.map fun reference => (reference.table, reference.target)
      else none := by
  have hmodifiers : (modifierCalls column).findSome? constraintTarget? = none :=
    List.findSome?_eq_none_iff.mpr fun _ hcall => constraintTarget?_of_mem_modifierCalls hcall
  rw [constrainedTo?, ofText?_columnStatement_eq, Option.bind_some, calls, List.findSome?_append,
    List.findSome?_cons, constraintTarget?_baseCall, hmodifiers, Option.none_or, constraint]
  by_cases hforeign : IsForeignKey column schema
  · obtain ⟨reference, others, hreferences⟩ := List.exists_cons_of_ne_nil hforeign.2.2
    rw [if_pos hforeign, if_pos hforeign, Column.foreignKey, hreferences]
    simp only [List.head?_cons, Option.toList_some, List.flatMap_cons, List.flatMap_nil,
      List.append_nil, findSome?_referenceCalls, Option.map_some]
  · rw [if_neg hforeign, if_neg hforeign, List.findSome?_nil]

/-- The constraint of a foreign key leads where the relationship leads that its column makes. -/
theorem constrainedTo?_of_madeBy {names : Convention} {schema : Schema} {table : Table}
    {column : Column} {relationship : Relationship}
    (hmade : MadeBy names table column relationship) :
    constrainedTo? (columnStatement column schema) =
      if IsForeignKey column schema then some relationship.target else none := by
  obtain ⟨reference, _, -, hreference, hmakes⟩ := hmade.exists_makes
  rw [constrainedTo?_columnStatement, hreference, Option.map_some, hmakes.target_eq]

/-- The relationships to one row are made by the columns with a reference. The line of a column
declares a constraint if and only if the column makes a relationship and neither counts up nor has a
type that stands for an enumeration, and then the two lead to the same column of the same table. -/
theorem constrained_iff_madeBy (names : Convention) (schema : Schema) (table : Table) :
    (∀ relationship ∈ Relationship.belongsTo names table,
        ∃ column ∈ table.columns, MadeBy names table column relationship) ∧
      ∀ column ∈ table.columns,
        ((∃ relationship, MadeBy names table column relationship) ↔ column.references ≠ []) ∧
        ∀ target, constrainedTo? (columnStatement column schema) = some target ↔
          ¬(column.primaryKey = true ∧ column.autoIncrement = true) ∧
            schema.enumFor column.type = none ∧
            ∃ relationship, MadeBy names table column relationship ∧
              relationship.target = target ∧ relationship.model = names.model target.1 := by
  refine ⟨fun relationship hmem => Relationship.exists_column_of_mem_belongsTo hmem,
    fun column hcolumn => ⟨Relationship.exists_madeBy_iff hcolumn, fun target => ?_⟩⟩
  constructor
  · intro hconstrained
    have hforeign : IsForeignKey column schema := by
      by_contra hnone
      rw [constrainedTo?_columnStatement, if_neg hnone] at hconstrained
      cases hconstrained
    obtain ⟨relationship, hmade⟩ : ∃ relationship, MadeBy names table column relationship :=
      (Relationship.exists_madeBy_iff hcolumn).mpr hforeign.2.2
    rw [constrainedTo?_of_madeBy hmade, if_pos hforeign] at hconstrained
    obtain rfl := Option.some.inj hconstrained
    exact ⟨hforeign.1, hforeign.2.1, relationship, hmade, rfl, hmade.model_eq⟩
  · rintro ⟨hcounts, henum, relationship, hmade, rfl, -⟩
    have hsome : column.references ≠ [] :=
      (Relationship.exists_madeBy_iff hcolumn).mp ⟨relationship, hmade⟩
    rw [constrainedTo?_of_madeBy hmade, if_pos ⟨hcounts, henum, hsome⟩]

/-- Posts have a column with a reference that neither counts up nor stands for an enumeration: its
line declares the constraint, and its relationship leads to the same column of the users. -/
theorem posts_constrained_to_users :
    let posts := Relationship.pointing "posts" "user_id" "users"
    ∃ column ∈ posts.columns, ∃ relationship,
      MadeBy .eloquent posts column relationship ∧ relationship.model = "User" ∧
        relationship.target = ("users", "id") ∧
        constrainedTo? (columnStatement column { tables := [posts] }) = some ("users", "id") := by
  intro posts
  have hcolumn : _ ∈ posts.columns := List.mem_cons_self
  have hforeign : ∀ column ∈ posts.columns, IsForeignKey column { tables := [posts] } := by
    decide +kernel
  have hconstrained := (constrainedTo?_columnStatement _ _).trans (if_pos (hforeign _ hcolumn))
  obtain ⟨-, hcolumns⟩ := constrained_iff_madeBy .eloquent { tables := [posts] } posts
  obtain ⟨-, -, relationship, hmade, htarget, hmodel⟩ :=
    ((hcolumns _ hcolumn).2 _).mp hconstrained
  exact ⟨_, hcolumn, relationship, hmade, hmodel.trans (by decide +kernel), htarget, hconstrained⟩

/-- Profiles that take their number from a user, and whose kind is listed in another table too. -/
def listedProfiles : Catalog where
  tables :=
    [{ name := "profiles"
       columns :=
        [{ name := "id", type := { name := "bigint" }, primaryKey := true, autoIncrement := true },
         { name := "kind", type := { name := "profile_kind" } }] },
     { name := "users", columns := [{ name := "id" }] },
     { name := "kinds", columns := [{ name := "name" }] }]
  enums := [{ name := "profile_kind", values := [.string "author", .string "reader"] }]
  refs :=
    [{ endpoints :=
        [{ table := "profiles", columns := ["id"], relation := some "*" },
         { table := "users", columns := ["id"], relation := some "1" }] },
     { endpoints :=
        [{ table := "profiles", columns := ["kind"], relation := some "*" },
         { table := "kinds", columns := ["name"], relation := some "1" }] }]

/-- Both columns of the profiles make a relationship, and the line of neither declares the
constraint. -/
theorem profiles_related_unconstrained :
    ∃ profiles ∈ (Schema.ofCatalog listedProfiles).tables,
      (Relationship.belongsTo .eloquent profiles).map (·.target) =
        [("users", "id"), ("kinds", "name")] ∧
      ∀ column ∈ profiles.columns,
        (∃ relationship, MadeBy .eloquent profiles column relationship) ∧
          constrainedTo? (columnStatement column (Schema.ofCatalog listedProfiles)) = none := by
  refine ⟨_, List.mem_cons_self, by decide +kernel, fun column hcolumn => ⟨?_, ?_⟩⟩
  · refine (Relationship.exists_madeBy_iff hcolumn).mpr ?_
    revert column
    decide +kernel
  · rw [constrainedTo?_columnStatement, if_neg]
    revert column
    decide +kernel

end Migration

end SchemaScaffold
