import SchemaScaffold.Migration
import SchemaScaffold.Model
import SchemaScaffold.Proofs.Stub.Rescanning

/-!
# How the packaged stubs are filled

The packaged stubs are clean, and every fragment that is written for a table holds a quote unless
it is empty. So what is rendered is known exactly: each place holds its fragment, settled by the
later ones, and this is the fragment itself for all places exactly when none of them spells the
place of a later name.
-/

namespace SchemaScaffold

open Stub (Clean Marked Undisturbed IsQuoted placeChars cut settled fillAtOnce packagedLoader)

/-- Lines are the characters of each line, with an end behind them. -/
theorem Stub.toList_ofLines (lines : List String) :
    (Stub.ofLines lines).toList = lines.flatMap fun line => line.toList ++ ['\n'] := by
  induction lines with
  | nil => rfl
  | cons line rest ih =>
      unfold Stub.ofLines at ih ⊢
      rw [List.map_cons, String.join_cons, String.toList_append, ih, String.toList_append]
      rfl

/-- The text holds a quote. -/
def HasQuote (text : String) : Prop := '\'' ∈ text.toList

/-- A text behind one that holds a quote. -/
theorem HasQuote.append_left {first : String} (hfirst : HasQuote first) (second : String) :
    HasQuote (first ++ second) := by
  rw [HasQuote, String.toList_append]
  exact List.mem_append_left _ hfirst

/-- A text before one that holds a quote. -/
theorem HasQuote.append_right (first : String) {second : String} (hsecond : HasQuote second) :
    HasQuote (first ++ second) := by
  rw [HasQuote, String.toList_append]
  exact List.mem_append_right _ hsecond

/-- A literal holds a quote. -/
theorem hasQuote_literal (text : String) : HasQuote (Php.literal text) := by
  rw [HasQuote, Php.literal, String.toList_ofList]
  exact List.mem_cons_self

/-- Each of several texts stands in them joined. -/
theorem infix_joined (separator : String) {texts : List String} {text : String}
    (hmem : text ∈ texts) : text.toList <:+: (Text.joined separator texts).toList := by
  induction texts with
  | nil => cases hmem
  | cons first rest ih =>
      cases rest with
      | nil =>
          obtain rfl := List.mem_singleton.mp hmem
          exact List.infix_rfl
      | cons second others =>
          rw [Text.joined, String.toList_append, String.toList_append, List.append_assoc]
          rcases List.mem_cons.mp hmem with rfl | hrest
          · exact (List.prefix_append _ _).isInfix
          · exact ((ih hrest).trans (List.suffix_append _ _).isInfix).trans
              (List.suffix_append _ _).isInfix
          · simp

/-- Joined texts hold a quote when one of them does. -/
theorem hasQuote_joined (separator : String) {texts : List String} {text : String}
    (hmem : text ∈ texts) (htext : HasQuote text) : HasQuote (Text.joined separator texts) :=
  (infix_joined separator hmem).subset htext

/-- Joined texts that all hold a quote are empty or hold one. -/
theorem isQuoted_joined (separator : String) {texts : List String}
    (htexts : ∀ text ∈ texts, HasQuote text) : IsQuoted (Text.joined separator texts).toList := by
  cases texts with
  | nil => exact Or.inr rfl
  | cons first rest =>
      have hfirst := htexts first List.mem_cons_self
      exact Or.inl (hasQuote_joined separator List.mem_cons_self hfirst)

/-- Texts that all hold a quote, one after another, are empty or hold one. -/
theorem isQuoted_join {texts : List String} (htexts : ∀ text ∈ texts, HasQuote text) :
    IsQuoted (String.join texts).toList := by
  cases texts with
  | nil => exact Or.inr rfl
  | cons first rest =>
      have hfirst := htexts first List.mem_cons_self
      rw [String.join_cons]
      exact Or.inl (hfirst.append_left _)

namespace Model

open Schema (Table)

/-- The names of the places in the stub of a model. -/
def placeNames : List String := ["modelName", "tableProperty", "fillable", "casts", "relations"]

/-- No place of a model holds a quote. -/
theorem unquoted_placeChars : ∀ name ∈ placeNames, '\'' ∉ placeChars name := by decide +kernel

/-- The method of a relationship holds a quote, in the name of its key. -/
theorem hasQuote_relationshipMethod (relationship : Relationship) :
    HasQuote (relationshipMethod relationship) := by
  have hkey : Php.literal relationship.foreignKey ∈ relationshipArguments relationship := by
    simp [relationshipArguments]
  have harguments := hasQuote_joined ", " hkey (hasQuote_literal _)
  unfold relationshipMethod
  apply HasQuote.append_left
  apply HasQuote.append_right
  exact harguments

/-- All values behind the first one are empty or hold a quote, and so are their places marked. -/
theorem marked_placeValues (table : Table) (schema : Schema) (className : String) :
    Marked (placeValues table schema className).tail := by
  intro value hvalue
  simp only [placeValues, List.tail_cons, List.mem_cons, List.not_mem_nil, or_false] at hvalue
  rcases hvalue with rfl | rfl | rfl | rfl
  · refine ⟨unquoted_placeChars _ (by simp [placeNames]), ?_⟩
    simp only [tableProperty]
    split
    · exact Or.inr rfl
    · have hname := (hasQuote_literal table.name).append_right "protected $table = "
      exact Or.inl ((hname.append_left _).append_left _)
  · refine ⟨unquoted_placeChars _ (by simp [placeNames]), isQuoted_joined _ fun text htext => ?_⟩
    obtain ⟨name, -, rfl⟩ := List.mem_map.mp htext
    exact hasQuote_literal name
  · refine ⟨unquoted_placeChars _ (by simp [placeNames]), isQuoted_joined _ fun text htext => ?_⟩
    obtain ⟨pair, -, rfl⟩ := List.mem_map.mp htext
    exact ((hasQuote_literal pair.1).append_left _).append_left _
  · refine ⟨unquoted_placeChars _ (by simp [placeNames]), isQuoted_joined _ fun text htext => ?_⟩
    obtain ⟨relationship, -, rfl⟩ := List.mem_map.mp htext
    exact hasQuote_relationshipMethod relationship

/-- The text of a model up to the name of its class. -/
def preamble : String :=
  Stub.ofLines
      ["<?php",
       "",
       "namespace App\\Models;",
       "",
       "use Illuminate\\Database\\Eloquent\\Model;",
       ""] ++
    "class "

/-- The pieces of the packaged stub of a model. -/
theorem cut_packagedModel : cut placeNames Stub.packagedModel =
    [.text preamble.toList, .place "modelName", .text " extends Model\n\x7b\n    ".toList,
      .place "tableProperty", .text "protected $fillable = [\n        ".toList, .place "fillable",
      .text "\n    ];\n\n    protected $casts = [\n        ".toList, .place "casts",
      .text "\n    ];\n\n    ".toList, .place "relations", .text "\n\x7d\n".toList] := by
  -- Evaluation is by lines: reading one long text character by character is quadratic.
  rw [cut, Stub.packagedModel, preamble, String.toList_append, Stub.toList_ofLines,
    Stub.toList_ofLines]
  decide +kernel

/-- The packaged stub of a model is clean. -/
theorem clean_packagedModel : Clean placeNames Stub.packagedModel := by
  have hpieces :
      (∀ name ∈ placeNames, .place name ∈ cut placeNames Stub.packagedModel) ∧
      (∀ name ∈ placeNames, Stub.sturdy (placeChars name) (cut placeNames Stub.packagedModel)) ∧
      Stub.followers (cut placeNames Stub.packagedModel) = [] := by
    rw [cut_packagedModel, preamble, String.toList_append, Stub.toList_ofLines]
    decide +kernel
  obtain ⟨hpresent, hsturdy, hfollowers⟩ := hpieces
  refine ⟨hpresent, hsturdy, ?_, by decide +kernel⟩
  rw [hfollowers]
  intro other hother
  cases hother

end Model

namespace Migration

open Schema (Table Column Index)

/-- The names of the places in the stub of a migration. -/
def placeNames : List String := ["tableName", "fields", "indexes"]

/-- No place of a migration holds a quote. -/
theorem unquoted_placeChars : ∀ name ∈ placeNames, '\'' ∉ placeChars name := by decide +kernel

/-- The call that declares a column holds a quote, in the name of the column. -/
theorem hasQuote_declaration (column : Column) (schema : Schema) :
    HasQuote (declaration column schema).1.arguments := by
  have hname := hasQuote_literal column.name
  unfold declaration
  split
  · exact hname
  · split
    · exact hname
    · exact hasQuote_joined _ List.mem_cons_self hname

/-- A statement holds a quote when the first of its calls does. -/
theorem hasQuote_statement {call : Php.Call} (hcall : HasQuote call.arguments)
    (calls : List Php.Call) : HasQuote (statement (call :: calls)) := by
  have htext : HasQuote ("->" ++ call.text) :=
    ((hcall.append_right _).append_left _).append_right _
  rw [statement, Php.chain, List.map_cons, String.join_cons]
  exact ((htext.append_left _).append_right _).append_left _

/-- The statement of an index that is written holds a quote, as it names a column. -/
theorem hasQuote_indexStatement {index : Index} (hindex : index.isRenderable = true) :
    HasQuote (indexStatement index) := by
  rw [Index.isRenderable, Bool.and_eq_true] at hindex
  cases hcolumns : index.columns with
  | nil =>
      rw [hcolumns] at hindex
      cases hindex.1
  | cons first rest =>
      refine hasQuote_statement ?_ []
      have hlist : HasQuote (Php.listLiteral index.columns) := by
        rw [Php.listLiteral, hcolumns]
        have hjoined := hasQuote_joined ", "
          (List.mem_cons_self : Php.literal first ∈ (first :: rest).map Php.literal)
          (hasQuote_literal first)
        exact (hjoined.append_right _).append_left _
      exact hasQuote_joined _ List.mem_cons_self hlist

/-- All values behind the first one are empty or hold a quote, and so are their places marked. -/
theorem marked_placeValues (table : Table) (schema : Schema) :
    Marked (placeValues table schema).tail := by
  intro value hvalue
  simp only [placeValues, List.tail_cons, List.mem_cons, List.not_mem_nil, or_false] at hvalue
  rcases hvalue with rfl | rfl
  · refine ⟨unquoted_placeChars _ (by simp [placeNames]), isQuoted_joined _ fun text htext => ?_⟩
    obtain ⟨column, -, rfl⟩ := List.mem_map.mp htext
    exact (hasQuote_statement (hasQuote_declaration column schema) _).append_right _
  · refine ⟨unquoted_placeChars _ (by simp [placeNames]), isQuoted_join fun text htext => ?_⟩
    obtain ⟨index, hindex, rfl⟩ := List.mem_map.mp htext
    have hstatement := hasQuote_indexStatement (List.mem_filter.mp hindex).2
    exact hstatement.append_right _

/-- The text of a migration up to the argument of the call that creates the table. -/
def opening : String :=
  Stub.ofLines
      ["<?php",
       "",
       "use Illuminate\\Database\\Migrations\\Migration;",
       "use Illuminate\\Database\\Schema\\Blueprint;",
       "use Illuminate\\Support\\Facades\\DB;",
       "use Illuminate\\Support\\Facades\\Schema;",
       "",
       "return new class extends Migration",
       "\x7b",
       "    public function up(): void",
       "    \x7b"] ++
    "        Schema::create("

/-- The text between that argument and the statements of the table. -/
def beforeStatements : String := ", function (Blueprint $table) \x7b\n"

/-- The text behind the statements, up to the argument of the call that drops the table. -/
def behindStatements : String :=
  Stub.ofLines
      ["",
       "        \x7d);",
       "    \x7d",
       "",
       "    public function down(): void",
       "    \x7b"] ++
    "        Schema::dropIfExists("

/-- The text behind that argument. -/
def closing : String := ");\n    \x7d\n\x7d;\n"

/-- The pieces of the packaged stub of a migration. -/
theorem cut_packagedMigration : cut placeNames Stub.packagedMigration =
    [.text (opening.toList ++ ['\'']), .place "tableName",
      .text ('\'' :: beforeStatements.toList), .place "fields", .place "indexes",
      .text (behindStatements.toList ++ ['\'']), .place "tableName",
      .text ('\'' :: closing.toList)] := by
  rw [cut, Stub.packagedMigration, Stub.toList_ofLines, opening, String.toList_append,
    Stub.toList_ofLines, behindStatements, String.toList_append, Stub.toList_ofLines]
  decide +kernel

/-- The packaged stub of a migration is clean. -/
theorem clean_packagedMigration : Clean placeNames Stub.packagedMigration := by
  have hpieces :
      (∀ name ∈ placeNames, .place name ∈ cut placeNames Stub.packagedMigration) ∧
      (∀ name ∈ placeNames,
        Stub.sturdy (placeChars name) (cut placeNames Stub.packagedMigration)) ∧
      Stub.followers (cut placeNames Stub.packagedMigration) = ["indexes"] := by
    rw [cut_packagedMigration, opening, String.toList_append, Stub.toList_ofLines,
      behindStatements, String.toList_append, Stub.toList_ofLines]
    decide +kernel
  obtain ⟨hpresent, hsturdy, hfollowers⟩ := hpieces
  refine ⟨hpresent, hsturdy, ?_, by decide +kernel⟩
  rw [hfollowers]
  decide +kernel

end Migration

/-- The stub of a model is filled with the settled fragments. -/
theorem Model.fill_placeValues (table : Schema.Table) (schema : Schema) (className : String) :
    Stub.fill Stub.packagedModel (placeValues table schema className) =
      fillAtOnce Stub.packagedModel (settled (placeValues table schema className)) :=
  Stub.fill_eq_fillAtOnce clean_packagedModel

/-- The stub of a model is filled with the fragments themselves exactly when none of them spells
the place of a later one. -/
theorem Model.fill_placeValues_iff (table : Schema.Table) (schema : Schema) (className : String) :
    Stub.fill Stub.packagedModel (placeValues table schema className) =
        fillAtOnce Stub.packagedModel (placeValues table schema className) ↔
      Undisturbed (placeValues table schema className) :=
  Stub.fill_eq_fillAtOnce_iff clean_packagedModel (marked_placeValues table schema className)

/-- The stub of a migration is filled with the settled fragments. -/
theorem Migration.fill_placeValues (table : Schema.Table) (schema : Schema) :
    Stub.fill Stub.packagedMigration (placeValues table schema) =
      fillAtOnce Stub.packagedMigration (settled (placeValues table schema)) :=
  Stub.fill_eq_fillAtOnce clean_packagedMigration

/-- The stub of a migration is filled with the fragments themselves exactly when none of them
spells the place of a later one. -/
theorem Migration.fill_placeValues_iff (table : Schema.Table) (schema : Schema) :
    Stub.fill Stub.packagedMigration (placeValues table schema) =
        fillAtOnce Stub.packagedMigration (placeValues table schema) ↔
      Undisturbed (placeValues table schema) :=
  Stub.fill_eq_fillAtOnce_iff clean_packagedMigration (marked_placeValues table schema)

/-- The packaged stub is always there, so a model fails only by the name of its class. -/
theorem Model.render_packaged (schema : Schema) (table : Schema.Table) :
    render packagedLoader schema table = (className table).map fun name =>
      { className := name
        contents := Stub.fill Stub.packagedModel (placeValues table schema name) } := by
  unfold render
  cases className table with
  | error error => rfl
  | ok name => rfl

/-- The packaged stub is always there, so a migration never fails. -/
theorem Migration.render_packaged (schema : Schema) (table : Schema.Table) :
    render packagedLoader schema table = .ok
      { name := Convention.migrationName table.name
        contents := Stub.fill Stub.packagedMigration (placeValues table schema) } :=
  rfl

/-- With the packaged stubs every place holds, at its own position, the fragment that belongs
there with the places of later names filled in it. These are the fragments themselves, so that all
places are filled at once, exactly when no fragment spells the place of a later name. -/
theorem render_packaged_iff_undisturbed (schema : Schema) (table : Schema.Table) :
    (Model.render packagedLoader schema table = (Model.className table).map fun name =>
      { className := name
        contents := fillAtOnce Stub.packagedModel
          (settled (Model.placeValues table schema name)) }) ∧
    (Migration.render packagedLoader schema table = .ok
      { name := Convention.migrationName table.name
        contents := fillAtOnce Stub.packagedMigration
          (settled (Migration.placeValues table schema)) }) ∧
    ((Model.render packagedLoader schema table = (Model.className table).map fun name =>
        { className := name
          contents := fillAtOnce Stub.packagedModel (Model.placeValues table schema name) }) ↔
      ∀ name, Model.className table = .ok name →
        Undisturbed (Model.placeValues table schema name)) ∧
    (Migration.render packagedLoader schema table = .ok
        { name := Convention.migrationName table.name
          contents := fillAtOnce Stub.packagedMigration (Migration.placeValues table schema) } ↔
      Undisturbed (Migration.placeValues table schema)) := by
  have hmigration : Migration.render packagedLoader schema table = .ok
      { name := Convention.migrationName table.name
        contents := Stub.fill Stub.packagedMigration (Migration.placeValues table schema) } := rfl
  rw [Model.render_packaged, hmigration]
  refine ⟨?_, ?_, ?_, ?_⟩
  · simp only [Model.fill_placeValues]
  · rw [Migration.fill_placeValues]
  · cases Model.className table with
    | error error => simp [Except.map]
    | ok name => simp [Except.map, Model.fill_placeValues_iff]
  · simp only [Except.ok.injEq, Migration.Rendered.mk.injEq, true_and,
      Migration.fill_placeValues_iff]

/-- A default that speaks of a place is enough to disturb a migration. -/
example : ¬Undisturbed (Migration.placeValues
    { name := "posts", schema := "public", indexes := []
      columns := [{ name := "body", type := { name := "text" }, notNull := true
                    defaultValue := some { value := .string "\x7b\x7b indexes \x7d\x7d"
                                           kind := some "string" } }] } {}) := by
  decide +kernel

end SchemaScaffold
