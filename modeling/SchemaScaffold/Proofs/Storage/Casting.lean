import SchemaScaffold.Model

/-!
# Casts and what is stored

The family of a type decides both how its columns are stored and how a model casts them, so the two
agree for every name and all arguments of a type. But an enumeration of the schema goes before the
family where columns are stored, and not where they are cast: a column of an enumeration whose name
is that of a known type, such as `bool`, holds the texts of the enumeration, and the model casts
them to something else. This is the only way in which they disagree.
-/

namespace SchemaScaffold

open Schema (ColumnType Table)

namespace Cast

/-- What a cast can read. Whole numbers are read without one. -/
inductive Fits : Cast → Storage → Prop
  | boolean : Fits boolean .boolean
  | array : Fits array .json
  | dateTime : Fits dateTime .timestamp
  | date : Fits date .date
  | decimal (precision scale : Nat) : Fits (decimal scale) (.decimal precision scale)
  | floatOfDecimal (precision scale : Nat) : Fits float (.decimal precision scale)
  | floatOfDouble : Fits float .double
  | floatOfFloat : Fits float .float

/-- The cast that a model writes for a column of the type. -/
def written? (type : ColumnType) : Option Cast :=
  (ofType? type).filter fun cast => !cast.isTrivial

/-- The cast that is written for a storage fits it, and where none is written none would fit. -/
inductive Agrees : Option Cast → Storage → Prop
  | reads {cast : Cast} {storage : Storage} (hfits : cast.Fits storage) :
      Agrees (some cast) storage
  | leaves {storage : Storage} (hnone : ∀ cast : Cast, ¬cast.Fits storage) : Agrees none storage

/-- Nothing but the lack of a cast agrees with the values of an enumeration. -/
theorem agrees_enum_iff {cast : Option Cast} {values : List String} :
    Agrees cast (.enum values) ↔ cast = none := by
  constructor
  · rintro (⟨hfits⟩ | -)
    · cases hfits
    · rfl
  · rintro rfl
    exact .leaves fun _ hfits => nomatch hfits

/-- The cast of a type agrees with the storage of its family. -/
theorem agrees_ofType_none (type : ColumnType) :
    Agrees (written? type) (Storage.ofType type none) := by
  simp only [written?, ofType?, Storage.ofType]
  cases TypeFamily.ofName type.name with
  | boolean => exact .reads .boolean
  | json => exact .reads .array
  | timestamp => exact .reads .dateTime
  | date => exact .reads .date
  | double => exact .reads .floatOfDouble
  | float => exact .reads .floatOfFloat
  | decimal =>
    -- The digits behind the point are kept only where the type says how many they are.
    cases (type.arg? 1).isSome with
    | true => exact .reads (.decimal _ _)
    | false => exact .reads (.floatOfDecimal _ _)
  | _ => exact .leaves fun _ hfits => nomatch hfits

end Cast

/-- The list of casts in a model has an item for each column whose type has a cast that is written,
in the order of the columns. The cast of a type agrees with its storage if and only if the type
stands for no enumeration of the schema or has no cast that is written. -/
theorem Model.casts_agree_iff (schema : Schema) (table : Table) :
    casts table = Text.joined itemSeparator (table.columns.filterMap fun column =>
        (Cast.written? column.type).map fun cast =>
          Php.literal column.name ++ " => " ++ Php.literal cast.name) ∧
      ∀ type : ColumnType,
        Cast.Agrees (Cast.written? type) (Storage.ofType type (schema.enumFor type)) ↔
          schema.enumFor type = none ∨ Cast.written? type = none := by
  refine ⟨?_, fun type => ?_⟩
  · rw [casts, castPairs, List.map_filterMap]
    simp only [Option.map_map, Function.comp_def, Cast.written?]
  · cases henum : schema.enumFor type with
    | none => exact iff_of_true (Cast.agrees_ofType_none type) (.inl rfl)
    | some enumeration =>
        rw [Storage.ofType, Cast.agrees_enum_iff]
        exact ⟨.inr, fun heither => heither.resolve_left (Option.some_ne_none enumeration)⟩

-- An enumeration with the name of a known type: the texts `Y` and `N` are read as truth values.
example :
    let active : Schema.Column := { name := "active", type := { name := "bool" } }
    let schema : Schema := { enums := [("bool", { name := "bool", values := ["Y", "N"] })] }
    Storage.ofType active.type (schema.enumFor active.type) = .enum ["Y", "N"] ∧
      Model.casts { name := "users", schema := "public", columns := [active], indexes := [] } =
        "'active' => 'boolean'" := by
  decide +kernel

end SchemaScaffold
