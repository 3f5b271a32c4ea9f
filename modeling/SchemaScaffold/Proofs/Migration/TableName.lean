import SchemaScaffold.Proofs.Convention.Characters
import SchemaScaffold.Proofs.Php.Verbatim
import SchemaScaffold.Proofs.Stub.Rendering

/-!
# The name of the table in a model and in a migration

A model names its table by a literal, unless the framework would find the name by itself. In both
cases the table it speaks of is the one it was rendered for, whatever the name is. A migration has
the name twice, where the table is created and where it is dropped, and there it stands between the
quotes of the stub without being escaped. So the two calls speak of the table of the model exactly
when the name is one that may stand between quotes as it is.
-/

namespace SchemaScaffold

open Stub (Unbraced cut packagedLoader settled spell valueOf)

/-- Class names have no braces at all. -/
theorem unbraced_modelName (table : String) : Unbraced (Convention.modelName table).toList := by
  intro hbraces
  have hmem : '\x7b' ∈ (Convention.modelName table).toList := hbraces.subset List.mem_cons_self
  exact Text.ne_of_isNameChar (Text.isNameChar_upperCamelCase hmem) (by decide) rfl

namespace Php

/-- No place begins in a literal, unless one begins in its text. -/
theorem unbraced_of_literal {front rest text : List Char} (hfront : Unbraced front)
    (htext : Unbraced text) (hrest : Unbraced rest) :
    Unbraced (front ++ '\'' :: (text.flatMap escapedChar ++ '\'' :: rest)) := by
  intro hbraces
  rcases Text.infix_of_infix_append_cons (by decide) hbraces with h | hinner
  · exact hfront h
  · rcases Text.infix_of_infix_append_cons (by decide) hinner with h | h
    · exact htext (infix_of_infix_escaped (by decide) (by decide) h)
    · exact hrest h

end Php

namespace Model

open Schema (Table)

/-- The text of a model up to its first member. -/
def heading (className : String) : String :=
  preamble ++ className ++ " extends Model\n\x7b\n    "

/-- The table that a model speaks of: the one that a property at its head names, or else the one
that the framework expects for the class. -/
def Rendered.effectiveTable? (model : Rendered) : Option String :=
  ((heading model.className).toList.isPrefixOf? model.contents.toList).bind fun members =>
    match "protected $table = ".toList.isPrefixOf? members with
    | some value =>
      match Php.nextToken? value with
      | some (.literal text, ';' :: _) => some text
      | _ => none
    | none => some (Convention.tableName model.className)

/-- No place begins in the property that names the table, unless one begins in the name. -/
theorem unbraced_tableProperty {table : String} (htable : Unbraced table.toList)
    (className : String) : Unbraced (tableProperty table className).toList := by
  unfold tableProperty
  split
  · decide
  · have hfront : Unbraced "protected $table = ".toList := by decide
    have hrest : Unbraced (";" ++ memberSeparator).toList := by decide
    simpa [Php.literal, Php.literalChars] using Php.unbraced_of_literal hfront htable hrest

/-- A model starts with its heading and the property that names its table, and goes on with the
columns that may be filled. -/
theorem exists_toList_fill {table : Table} (htable : Unbraced table.name.toList) (schema : Schema)
    {className : String} (hclass : Unbraced className.toList) :
    ∃ more, (Stub.fill Stub.packagedModel (placeValues table schema className)).toList =
      (heading className).toList ++
        ((tableProperty table.name className).toList ++
          ("protected $fillable = [\n        ".toList ++ more)) := by
  have hspell : (Stub.fill Stub.packagedModel (placeValues table schema className)).toList =
      spell (valueOf (settled (placeValues table schema className)))
        (cut placeNames Stub.packagedModel) :=
    Stub.toList_fill_of_clean clean_packagedModel
  have hname : valueOf (settled (placeValues table schema className)) "modelName" =
      className.toList :=
    Stub.valueOf_settled_of_unbraced (by simp [valueOf, placeValues]) hclass
  have hproperty : valueOf (settled (placeValues table schema className)) "tableProperty" =
      (tableProperty table.name className).toList :=
    Stub.valueOf_settled_of_unbraced (by simp [valueOf, placeValues, List.lookup_cons])
      (unbraced_tableProperty htable className)
  rw [hspell, cut_packagedModel]
  simp only [Stub.spell_text, Stub.spell_place, hname, hproperty, heading, String.toList_append,
    List.append_assoc]
  exact ⟨_, rfl⟩

/-- A model speaks of the table it was rendered for. -/
theorem effectiveTable?_fill {table : Table} (htable : Unbraced table.name.toList)
    (schema : Schema) {className : String} (hclass : Unbraced className.toList) :
    Rendered.effectiveTable?
        { className := className
          contents := Stub.fill Stub.packagedModel (placeValues table schema className) } =
      some table.name := by
  obtain ⟨more, hmore⟩ := exists_toList_fill htable schema hclass
  have hbehind (front rest : List Char) : front.isPrefixOf? (front ++ rest) = some rest :=
    List.isPrefixOf?_eq_some_iff_append_eq.mpr rfl
  unfold Rendered.effectiveTable?
  simp only [hmore, hbehind, Option.bind_some]
  by_cases hfound : Convention.tableName className = table.name
  · have hnone : "protected $table = ".toList.isPrefixOf?
        ("".toList ++ ("protected $fillable = [\n        ".toList ++ more)) = none := rfl
    rw [tableProperty, if_pos hfound, hnone, hfound]
  · rw [tableProperty, if_neg hfound]
    simp only [String.toList_append, List.append_assoc, hbehind, Php.nextToken?_literal]
    rfl

end Model

namespace Migration

open Php (IsVerbatim nextToken? quoted)
open Schema (Table)

/-- The statements of a migration. A text of a column that spells the place of the indexes has them
filled in. -/
def statements (table : Table) (schema : Schema) : String :=
  Stub.fill (fields table schema) [("indexes", indexes table)] ++ indexes table

/-- The text behind the argument of the first call, when the second one has this argument. -/
def behindCreated (statements argument : String) : String :=
  beforeStatements ++ statements ++ behindStatements ++ argument ++ closing

/-- A migration has the name of its table between quotes, as it is, in both calls. -/
theorem fill_eq_append {table : Table} (htable : Unbraced table.name.toList)
    (schema : Schema) :
    Stub.fill Stub.packagedMigration (placeValues table schema) =
      opening ++ quoted table.name ++
        behindCreated (statements table schema) (quoted table.name) := by
  have hspell : (Stub.fill Stub.packagedMigration (placeValues table schema)).toList =
      spell (valueOf (settled (placeValues table schema)))
        (cut placeNames Stub.packagedMigration) :=
    Stub.toList_fill_of_clean clean_packagedMigration
  have hname : valueOf (settled (placeValues table schema)) "tableName" = table.name.toList :=
    Stub.valueOf_settled_of_unbraced (by simp [valueOf, placeValues]) htable
  have hstatements : valueOf (settled (placeValues table schema)) "fields" ++
      valueOf (settled (placeValues table schema)) "indexes" =
        (statements table schema).toList := by
    rw [statements, String.toList_append]
    simp [valueOf, placeValues, settled, List.lookup_cons, Stub.fill]
  rw [← String.toList_inj, hspell, cut_packagedMigration]
  simp only [Stub.spell_text, Stub.spell_place, hname]
  rw [← List.append_assoc (valueOf _ "fields"), hstatements]
  simp [behindCreated, quoted, spell, String.toList_append]

/-- Whatever a table is called, as long as no place begins in its name, its model speaks of this
table. Its migration creates and drops a table of this name, by literals that end where the stub
says, if and only if the name may stand between quotes as it is. Otherwise neither call is given a
literal for the name, wherever it ends. -/
theorem names_table_iff_verbatim (schema : Schema) {table : Table}
    (htable : Unbraced table.name.toList) :
    (Model.render packagedLoader schema table).map Model.Rendered.effectiveTable? =
        (Model.className table).map (fun _ => some table.name) ∧
      render packagedLoader schema table = .ok
        { name := Convention.migrationName table.name
          contents := opening ++ quoted table.name ++
            behindCreated (statements table schema) (quoted table.name) } ∧
      (∀ after,
        nextToken? (quoted table.name ++
            behindCreated (statements table schema) (quoted table.name)).toList =
          some (.literal table.name, after) ↔
        IsVerbatim table.name.toList ∧
          after = (behindCreated (statements table schema) (quoted table.name)).toList) ∧
      ∀ after,
        nextToken? (quoted table.name ++ closing).toList = some (.literal table.name, after) ↔
        IsVerbatim table.name.toList ∧ after = closing.toList := by
  refine ⟨?_, ?_, fun after => ?_, fun after => ?_⟩
  · rw [Model.render_packaged]
    cases hclass : Model.className table with
    | error error => rfl
    | ok name =>
        have hbraces := unbraced_modelName table.name
        rw [← Model.eq_modelName_of_className hclass] at hbraces
        exact congrArg Except.ok (Model.effectiveTable?_fill htable schema hbraces)
  · rw [render_packaged, fill_eq_append htable]
  · rw [String.toList_append]
    exact Php.nextToken?_quoted_iff table.name _ after
  · rw [String.toList_append]
    exact Php.nextToken?_quoted_iff table.name _ after

/-- A table with an apostrophe in its name. -/
def apostropheTable : Table :=
  { name := "user's", schema := "public", columns := [], indexes := [] }

/-- The model of this table speaks of it, and its migration does not. -/
theorem apostropheTable_misnamed :
    Unbraced apostropheTable.name.toList ∧
      (Model.render packagedLoader {} apostropheTable).map Model.Rendered.effectiveTable? =
        .ok (some "user's") ∧
      (∀ after,
        nextToken? (quoted "user's" ++
          behindCreated (statements apostropheTable {}) (quoted "user's")).toList ≠
            some (.literal "user's", after)) ∧
      ∀ after,
        nextToken? (quoted "user's" ++ closing).toList ≠ some (.literal "user's", after) := by
  have hbraces : Unbraced apostropheTable.name.toList := by decide
  have hquote : ¬IsVerbatim apostropheTable.name.toList := by decide
  obtain ⟨hmodel, -, hcreated, hdropped⟩ := names_table_iff_verbatim {} hbraces
  have hclass : Model.className apostropheTable = .ok "User" := by decide +kernel
  rw [hclass] at hmodel
  exact ⟨hbraces, hmodel, fun after h => hquote ((hcreated after).mp h).1,
    fun after h => hquote ((hdropped after).mp h).1⟩

end Migration

end SchemaScaffold
