import Mathlib.Data.List.InsertIdx
import SchemaScaffold.Artifacts
import SchemaScaffold.Proofs.Migration.Column
import SchemaScaffold.Proofs.Relationship.Distinct

/-!
# Tables that have nothing to do with each other

What is written for a table depends on the other tables of the schema in one way only: by the
references that point to it. The enumerations aside, two schemas with the same references to a table
in the same order cannot be told apart from what is written for it, whatever the source of the
stubs. So a table that refers nowhere near it may come and go anywhere in the schema, and neither
its model nor its migration notices, not even by a relationship that is merged with another one.
-/

namespace SchemaScaffold.Artifacts

open Relationship (pointersTo pointing)
open Schema (Table)

variable {loader : Stub.Loader} {first second schema : Schema} {table other : Table}

/-- A table sees the same of two schemas: the enumerations, and the references that point to it. -/
structure SeesSame (table : Table) (first second : Schema) : Prop where
  enums : first.enums = second.enums
  pointers : pointersTo table first.tables = pointersTo table second.tables

/-- A table has the same relationships where it sees the same. -/
theorem SeesSame.relationships (hsame : SeesSame table first second) (names : Convention) :
    Relationship.all names table first = Relationship.all names table second := by
  rw [Relationship.all, Relationship.all, Relationship.hasMany, Relationship.hasMany,
    hsame.pointers]

/-- A table has the same model where it sees the same. -/
theorem SeesSame.renderModel (hsame : SeesSame table first second) (loader : Stub.Loader) :
    Model.render loader first table = Model.render loader second table := by
  have hvalues (name : String) :
      Model.placeValues table first name = Model.placeValues table second name := by
    simp only [Model.placeValues, Model.relationships, hsame.relationships]
  simp only [Model.render, hvalues]

/-- A table has the same migration where it sees the same. -/
theorem SeesSame.renderMigration (hsame : SeesSame table first second) (loader : Stub.Loader) :
    Migration.render loader first table = Migration.render loader second table := by
  simp only [Migration.render, Migration.placeValues, Migration.fields,
    Migration.columnStatement_congr hsame.enums]

/-- No reference of a table leads to another one by its name. -/
def IsBystander (other table : Table) : Prop :=
  ∀ column ∈ other.columns, ∀ reference ∈ column.references,
    Text.eqIgnoringAsciiCase reference.table table.name = false

instance (other table : Table) : Decidable (IsBystander other table) :=
  inferInstanceAs (Decidable (∀ column ∈ other.columns, _))

/-- A bystander has no references to the table. -/
theorem IsBystander.pointersTo_singleton (hother : IsBystander other table) :
    pointersTo table [other] = [] := by
  rw [List.eq_nil_iff_forall_not_mem]
  intro pointer hpointer
  obtain ⟨hsource, -, hcolumn, hreference, hpoints⟩ := Relationship.mem_pointersTo.mp hpointer
  rw [List.mem_singleton.mp hsource] at hcolumn
  exact Bool.false_ne_true ((hother _ hcolumn _ hreference).symm.trans hpoints)

/-- The references to a table are found table by table. -/
theorem pointersTo_cons (table head : Table) (tail : List Table) :
    pointersTo table (head :: tail) = pointersTo table [head] ++ pointersTo table tail := by
  rw [← List.singleton_append]
  simp only [pointersTo, List.filter_append, List.flatMap_append]

/-- A bystander that comes in anywhere brings no references to the table. -/
theorem IsBystander.pointersTo_insertIdx (hother : IsBystander other table) (tables : List Table)
    (position : Nat) :
    pointersTo table (tables.insertIdx position other) = pointersTo table tables := by
  induction tables generalizing position with
  | nil =>
      cases position with
      | zero => exact hother.pointersTo_singleton
      | succ position => rfl
  | cons head tail ih =>
      cases position with
      | zero =>
          rw [List.insertIdx_zero, pointersTo_cons, hother.pointersTo_singleton, List.nil_append]
      | succ position =>
          rw [List.insertIdx_succ_cons, pointersTo_cons, ih, ← pointersTo_cons]

/-- A table sees the same of a schema when a bystander comes in. -/
theorem IsBystander.seesSame (hother : IsBystander other table) (schema : Schema)
    (position : Nat) :
    SeesSame table { schema with tables := schema.tables.insertIdx position other } schema where
  enums := rfl
  pointers := hother.pointersTo_insertIdx schema.tables position

/-- Where a table comes in anywhere, or goes away from anywhere, that does not refer to another one,
the model and the migration of the latter stay as they are, or fail as they did. -/
theorem render_beside_bystander (loader : Stub.Loader) (schema : Schema) (table other : Table)
    (hother : IsBystander other table) (position : Nat) :
    let larger : Schema := { schema with tables := schema.tables.insertIdx position other }
    let smaller : Schema := { schema with tables := schema.tables.eraseIdx position }
    (Model.render loader larger table = Model.render loader schema table ∧
        Migration.render loader larger table = Migration.render loader schema table) ∧
      (schema.tables[position]? = some other →
        Model.render loader smaller table = Model.render loader schema table ∧
          Migration.render loader smaller table = Migration.render loader schema table) := by
  intro larger smaller
  have hlarger : SeesSame table larger schema := hother.seesSame schema position
  refine ⟨⟨hlarger.renderModel loader, hlarger.renderMigration loader⟩, fun hthere => ?_⟩
  -- The schema is the smaller one with the bystander put back.
  obtain ⟨hposition, hget⟩ := List.getElem?_eq_some_iff.mp hthere
  have hback : smaller.tables.insertIdx position other = schema.tables := by
    rw [← hget]
    exact List.insertIdx_eraseIdx_getElem hposition
  have hsmaller : SeesSame table schema smaller := by
    have hsees := hother.seesSame smaller position
    rwa [hback] at hsees
  exact ⟨(hsmaller.renderModel loader).symm, (hsmaller.renderMigration loader).symm⟩

/-- Users, whom posts refer to. -/
def users : Table where
  name := "users"
  schema := "public"
  columns := []
  indexes := []

/-- Comments refer to posts only, so users do not notice them when they come or go, although they do
notice posts. -/
theorem render_users_beside_comments :
    let posts := pointing "posts" "author_id" "users"
    let comments := pointing "comments" "post_id" "posts"
    let smaller : Schema := { tables := [users, posts] }
    let larger : Schema := { tables := [users, comments, posts] }
    IsBystander comments users ∧ ¬IsBystander posts users ∧
      Model.render Stub.packagedLoader larger users =
        Model.render Stub.packagedLoader smaller users ∧
      Migration.render Stub.packagedLoader smaller users =
        Migration.render Stub.packagedLoader larger users := by
  intro posts comments smaller larger
  have hcomments : IsBystander comments users := by decide +kernel
  have hcome := (render_beside_bystander Stub.packagedLoader smaller users comments hcomments 1).1
  have hgo := (render_beside_bystander Stub.packagedLoader larger users comments hcomments 1).2 rfl
  exact ⟨hcomments, by decide +kernel, hcome.1, hgo.2⟩

end SchemaScaffold.Artifacts
