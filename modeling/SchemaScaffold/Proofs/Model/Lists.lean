import SchemaScaffold.Proofs.Php.Arrays
import SchemaScaffold.Proofs.Relationship.Accessor
import SchemaScaffold.Proofs.Storage.Casting

/-!
# The lists of a model, read back

A model lists the columns that may be filled and the columns that are cast. Read as arrays of
literals, both lists give back exactly the columns that were meant, in their order and as often as
they stand in the table. Nothing is asked of the names: quotes, backslashes, commas, arrows and line
breaks in them are read as they are. The name of a cast determines the cast, so no two casts are
mixed up either.
-/

namespace SchemaScaffold

open Schema (Table)

/-- The name of a decimal is the only one that starts like this. -/
theorem Cast.take_toList_name (cast : Cast) :
    cast.name.toList.take 8 = "decimal:".toList ↔ ∃ scale, cast = .decimal scale := by
  cases cast with
  | decimal scale => simp [Cast.name]
  | _ => exact iff_of_false (by decide) nofun

/-- The name of a cast determines the cast, the digits behind the point included. -/
theorem Cast.name_injective : Function.Injective Cast.name := by
  intro first second hsame
  cases first with
  | decimal scale =>
      have hstarts := (Cast.take_toList_name _).mpr ⟨scale, rfl⟩
      rw [hsame] at hstarts
      obtain ⟨other, rfl⟩ := (Cast.take_toList_name _).mp hstarts
      exact congrArg Cast.decimal (Relationship.numberedName_injective "decimal:" hsame)
  | _ =>
      cases second with
      | decimal scale =>
          have hstarts := (Cast.take_toList_name _).mpr ⟨scale, rfl⟩
          rw [← hsame] at hstarts
          obtain ⟨other, hother⟩ := (Cast.take_toList_name _).mp hstarts
          cases hother
      | _ => first | rfl | exact absurd hsame (by decide)

namespace Model

/-- The items of the list of columns that may be filled are literals without keys. -/
theorem fillable_eq (table : Table) :
    fillable table = Text.joined itemSeparator
      (((fillableNames table).map Php.Element.value).map Php.Element.render) := by
  rw [List.map_map]
  rfl

/-- The items of the list of casts are the names of casts under the names of columns. -/
theorem casts_eq (table : Table) :
    casts table = Text.joined itemSeparator
      (((castPairs table).map fun (column, cast) => Php.Element.entry column cast.name).map
        Php.Element.render) := by
  rw [List.map_map]
  rfl

/-- Between brackets, and whatever follows them, the list of columns that may be filled is read as
the names of all columns that are no keys and are not looked after by the framework, and the list of
casts as the names of all columns with a cast that is written, each with the name of its cast. Both
keep the order of the columns, and a name that stands in the table twice is read twice. The names of
casts tell the casts apart. -/
theorem lists_read_back (table : Table) (rest : List Char) :
    Php.readArray? (("[" ++ fillable table ++ "]").toList ++ rest) =
        some ((table.columns.filter fun column =>
          !column.primaryKey && column.name ∉ ["id", "created_at", "updated_at"]).map
            fun column => .value column.name, rest) ∧
      Php.readArray? (("[" ++ casts table ++ "]").toList ++ rest) =
        some (table.columns.filterMap fun column =>
          (Cast.written? column.type).map fun cast => .entry column.name cast.name, rest) ∧
      Function.Injective Cast.name := by
  have hseparator : itemSeparator.toList = ',' :: "\n        ".toList := rfl
  have hgap : ∀ c ∈ "\n        ".toList, Php.isGap c = true := List.all_eq_true.mp rfl
  refine ⟨?_, ?_, Cast.name_injective⟩
  · rw [fillable_eq, Php.readArray?_joined hseparator hgap, fillableNames, List.map_map]
    simp only [managedColumns, List.contains_eq_mem, decide_not]
    rfl
  · rw [casts_eq, Php.readArray?_joined hseparator hgap, castPairs, List.map_filterMap]
    simp only [Option.map_map]
    rfl

-- The name of a single column that looks like two of them.
example :
    let column : Schema.Column := { name := "a', 'b", type := { name := "json" } }
    let table : Table := { name := "notes", schema := "public", columns := [column], indexes := [] }
    fillable table = "'a\\', \\'b'" ∧ casts table = "'a\\', \\'b' => 'array'" := by
  decide +kernel

end Model

end SchemaScaffold
