import SchemaScaffold.Model
import SchemaScaffold.Proofs.Inflection.Opening
import SchemaScaffold.Proofs.Php.Identifier
import SchemaScaffold.Proofs.Relationship.Search
import SchemaScaffold.Proofs.Relationship.Source
import SchemaScaffold.Proofs.Stub.Rendering

/-!
# Names that can be declared

A table whose class would have a reserved name has no model. That is the only check, and it is not
enough: what is derived from a name opens as the letters and numbers of the name do, so a name that
opens with a digit leads to a class and to accessors that do so too, a name without letters and
numbers and a lone `s` lead to an empty one, and nothing keeps a class from having the name of the
parent class. `declarable_iff_sound` says that all other classes can be declared, and for each
accessor by the name that it comes from whether it can.
-/

namespace SchemaScaffold

open Schema (Column Table)
open Text (opening letters isNameChar)

namespace Convention

/-- The name of a table leads to names that can be declared: the first of its letters and numbers is
there and is no ASCII digit, and in snake case it is not just an `s`. -/
structure IsSound (table : String) : Prop where
  letter : opening (letters table) = .letter
  lasting : (Text.snakeCase table).toList.map Pattern.folded ≠ ['s']

/-- The stem of all names that are derived from a table opens with a letter exactly for sound
names. -/
theorem opening_stem (table : String) :
    opening (Inflection.singular (Text.snakeCase table)).toList ≠ .separator ∧
      (opening (Inflection.singular (Text.snakeCase table)).toList = .letter ↔ IsSound table) := by
  have hsnake := Text.opening_snakeCase table
  have hseparator : opening (Text.snakeCase table).toList ≠ .separator := by
    rw [hsnake]
    exact Text.opening_letters_ne_separator table
  by_cases hlone : (Text.snakeCase table).toList.map Pattern.folded = ['s']
  · rw [Inflection.singular_of_lone_s hlone]
    exact ⟨by decide, iff_of_false (by decide) fun hsound => hsound.lasting hlone⟩
  · rw [Inflection.opening_singular hseparator hlone]
    refine ⟨hseparator, ?_⟩
    rw [hsnake]
    exact ⟨fun hletter => ⟨hletter, hlone⟩, fun hsound => hsound.letter⟩

/-- A name that opens as the stem, and is made of letters and numbers, is an identifier exactly for
sound names. -/
theorem isIdentifier_iff_isSound {table name : String}
    (hchars : ∀ c ∈ name.toList, isNameChar c = true)
    (hopening : opening name.toList =
      opening (Inflection.singular (Text.snakeCase table)).toList) :
    Php.IsIdentifier name ↔ IsSound table := by
  obtain ⟨hseparator, hletter⟩ := opening_stem table
  rw [Php.isIdentifier_iff_opening hchars (by rw [hopening]; exact hseparator), hopening, hletter]

/-- The class of a table. -/
theorem isIdentifier_modelName (table : String) :
    Php.IsIdentifier (modelName table) ↔ IsSound table := by
  apply isIdentifier_iff_isSound
  · exact fun c hc => Text.isNameChar_upperCamelCase hc
  · rw [modelName, Text.opening_upperCamelCase, Text.opening_letters (opening_stem table).1]

/-- The accessor for the one row of a table. -/
theorem isIdentifier_belongsToMethod (table : String) :
    Php.IsIdentifier (belongsToMethod table) ↔ IsSound table := by
  apply isIdentifier_iff_isSound
  · exact fun c hc => Text.isNameChar_lowerCamelCase hc
  · rw [belongsToMethod, Text.opening_lowerCamelCase, Text.opening_letters (opening_stem table).1]

/-- The accessor for the rows of a table. -/
theorem isIdentifier_hasManyMethod (table : String) :
    Php.IsIdentifier (hasManyMethod table) ↔ IsSound table := by
  have hstem := (opening_stem table).1
  have hplural := Inflection.opening_plural hstem
  apply isIdentifier_iff_isSound
  · exact fun c hc => Text.isNameChar_lowerCamelCase hc
  · rw [hasManyMethod, Text.opening_lowerCamelCase,
      Text.opening_letters (by rw [hplural]; exact hstem), hplural]

/-- Dropping the ending `_id` leaves the opening of a name alone. -/
theorem opening_withoutId (name : String) :
    opening (withoutId name).toList = opening name.toList := by
  unfold withoutId
  split
  case h_1 stem hstem =>
    split
    case isTrue => rfl
    case isFalse hne =>
      rw [Text.withoutEnding?_eq_some_iff.mp hstem, String.toList_append,
        Text.opening_append (by simpa using hne)]
  case h_2 => rfl

/-- The accessor after a column, with a number behind it or without one. -/
theorem isIdentifier_columnMethod (column : String) {number : String}
    (hnumber : ∀ c ∈ number.toList, c.isDigit = true) :
    Php.IsIdentifier (columnMethod column ++ number) ↔ opening (letters column) = .letter := by
  have hsnake : opening (withoutId (Text.snakeCase column)).toList = opening (letters column) := by
    rw [opening_withoutId, Text.opening_snakeCase]
  have hseparator := Text.opening_letters_ne_separator column
  have hstem : opening (columnMethod column).toList = opening (letters column) := by
    rw [columnMethod, Text.opening_lowerCamelCase,
      Text.opening_letters (by rw [hsnake]; exact hseparator), hsnake]
  have hdigits : opening number.toList ≠ .separator ∧ opening number.toList ≠ .letter := by
    cases hchars : number.toList with
    | nil => exact ⟨by decide, by decide⟩
    | cons c rest =>
        have hdigit : c.isDigit = true := hnumber c (by rw [hchars]; exact List.mem_cons_self)
        have hc := Text.isAlphanumeric_of_isDigit hdigit
        refine ⟨Text.opening_cons_ne_separator_iff.mpr hc, ?_⟩
        rw [ne_eq, Text.opening_cons_eq_letter_iff, hdigit]
        simp
  have hchars : ∀ c ∈ (columnMethod column ++ number).toList, isNameChar c = true := by
    intro c hc
    rw [String.toList_append] at hc
    rcases List.mem_append.mp hc with hname | hdigit
    · exact Text.isNameChar_lowerCamelCase hname
    · simp [isNameChar, Char.isAlphanum, hnumber c hdigit]
  rw [← hstem] at hseparator ⊢
  by_cases hempty : (columnMethod column).toList = []
  · have hname : (columnMethod column ++ number).toList = number.toList := by
      rw [String.toList_append, hempty, List.nil_append]
    rw [Php.isIdentifier_iff_opening hchars (by rw [hname]; exact hdigits.1), hname, hempty]
    exact iff_of_false hdigits.2 (by decide)
  · have hname : opening (columnMethod column ++ number).toList =
        opening (columnMethod column).toList := by
      rw [String.toList_append, Text.opening_append hempty]
    rw [Php.isIdentifier_iff_opening hchars (by rw [hname]; exact hseparator), hname]

end Convention

namespace Relationship

/-- The name that an accessor comes from leads to names that can be declared: the name of the table,
or that of the column where the name after the table was taken. -/
def IsSound (relationship : Relationship) : Prop :=
  if relationship.kind = .hasMany ∨
      relationship.method = Convention.belongsToMethod relationship.table then
    Convention.IsSound relationship.table
  else opening (letters relationship.foreignKey) = .letter

/-- A relationship to one row has an accessor that was searched for. -/
theorem exists_isAccessor {names : Convention} {used : List String} {columns : List Column}
    {relationship : Relationship} (hmem : relationship ∈ belongsToFrom names used columns) :
    relationship.kind = .belongsTo ∧ ∃ taken, IsAccessor taken (names.belongsTo relationship.table)
      (names.column relationship.foreignKey) relationship.method := by
  induction columns generalizing used with
  | nil => cases hmem
  | cons column rest ih =>
      unfold belongsToFrom at hmem
      split at hmem
      case h_1 => exact ih hmem
      case h_2 reference _ =>
        rcases List.mem_cons.mp hmem with rfl | hrest
        · exact ⟨rfl, used, isAccessor_accessor used _ _⟩
        · exact ih hrest

/-- An accessor that is not the one after the target is the one after the column, with a number
behind it or without one. -/
theorem IsAccessor.exists_number {used : List String} {byTarget byColumn name : String}
    (haccessor : IsAccessor used byTarget byColumn name) (hother : name ≠ byTarget) :
    ∃ number, (∀ c ∈ number.toList, c.isDigit = true) ∧ name = byColumn ++ number := by
  cases haccessor with
  | target => exact absurd rfl hother
  | column => exact ⟨"", by simp, String.append_empty.symm⟩
  | @numbered number =>
      refine ⟨toString number, fun c hc => ?_, rfl⟩
      rw [Nat.toString_eq_repr, Nat.toList_repr] at hc
      exact Nat.isDigit_of_mem_toDigits (by decide) (by decide) hc

/-- An accessor to one row is an identifier exactly if it comes from a sound name. -/
theorem isIdentifier_of_mem_belongsTo {table : Table} {relationship : Relationship}
    (hmem : relationship ∈ belongsTo .eloquent table) :
    Php.IsIdentifier relationship.method ↔ relationship.IsSound := by
  obtain ⟨hkind, taken, haccessor⟩ := exists_isAccessor hmem
  simp only [Convention.eloquent] at haccessor
  unfold IsSound
  by_cases htarget : relationship.method = Convention.belongsToMethod relationship.table
  · rw [if_pos (.inr htarget), htarget]
    exact Convention.isIdentifier_belongsToMethod relationship.table
  · obtain ⟨number, hnumber, hmethod⟩ := haccessor.exists_number htarget
    rw [if_neg (by simp [hkind, htarget]), hmethod]
    exact Convention.isIdentifier_columnMethod relationship.foreignKey hnumber

/-- An accessor to many rows is an identifier exactly if it comes from a sound name. -/
theorem isIdentifier_of_mem_hasMany {table : Table} {schema : Schema} {relationship : Relationship}
    (hmem : relationship ∈ hasMany .eloquent table schema) :
    Php.IsIdentifier relationship.method ↔ relationship.IsSound := by
  have hkind : relationship.kind = .hasMany := by
    obtain ⟨pointer, -, rfl⟩ := exists_pointer_of_mem_hasMany hmem
    rfl
  have hmethod := method_of_mem_hasMany hmem
  simp only [Convention.eloquent] at hmethod
  rw [IsSound, if_pos (.inl hkind), hmethod]
  exact Convention.isIdentifier_hasManyMethod relationship.table

end Relationship

namespace Model

/-- What is a letter in lower case is a letter. -/
theorem isAlpha_of_toLower {c : Char} (hlower : c.toLower.isAlpha = true) : c.isAlpha = true := by
  by_cases hplain : c.toNat < 128
  · exact Text.of_plain (p := fun c => c.toLower.isAlpha = true → c.isAlpha = true)
      (by decide +kernel) hplain hlower
  · rwa [Text.toLower_of_beyond hplain] at hlower

/-- The packaged stub imports the parent class and nothing else. -/
theorem importedNames_packaged : Php.importedNames Stub.packagedModel = ["Model"] := by
  rw [Php.importedNames, Stub.packagedModel, Stub.toList_ofLines]
  decide +kernel

/-- A class can be declared in the packaged stub under any identifier but the name of the parent
class. -/
theorem isDeclarable_packaged_iff (name : String) :
    Php.IsDeclarable Stub.packagedModel name ↔
      Php.IsIdentifier name ∧ Text.eqIgnoringAsciiCase "Model" name = false := by
  constructor
  · intro hdeclarable
    have himported : "Model" ∈ Php.importedNames Stub.packagedModel := by
      rw [importedNames_packaged]
      exact List.mem_singleton_self "Model"
    exact ⟨hdeclarable.identifier, hdeclarable.free "Model" himported⟩
  · rintro ⟨hidentifier, hfree⟩
    constructor
    · exact hidentifier
    · intro imported himported
      rw [importedNames_packaged] at himported
      obtain rfl := List.mem_singleton.mp himported
      exact hfree

/-- The reserved names are made of letters, and the name of the parent class is none of them. -/
theorem reservedNames_letters : ∀ reserved ∈ reservedNames,
    reserved.toList.map Char.toLower ≠ [] ∧
      (reserved.toList.map Char.toLower).all Char.isAlpha = true ∧
      Text.eqIgnoringAsciiCase "Model" reserved = false := by
  decide +kernel

/-- As far as the language goes, a class could be declared under what is a reserved name but for its
case. -/
theorem isDeclarable_of_reserved {name : String}
    (hreserved : (reservedNames.any (Text.eqIgnoringAsciiCase · name)) = true) :
    Php.IsDeclarable Stub.packagedModel name := by
  obtain ⟨reserved, hmem, hsame⟩ := List.any_eq_true.mp hreserved
  obtain ⟨hne, hletters, hmodel⟩ := reservedNames_letters reserved hmem
  unfold Text.eqIgnoringAsciiCase at hsame hmodel
  rw [beq_iff_eq.mp hsame] at hne hletters hmodel
  have hstarts {c : Char} (hc : c ∈ name.toList) : Php.startsIdentifier c = true := by
    have hlower := List.all_eq_true.mp hletters _ (List.mem_map_of_mem hc)
    simp [Php.startsIdentifier, isAlpha_of_toLower hlower]
  refine (isDeclarable_packaged_iff name).mpr ⟨?_, hmodel⟩
  cases hname : name.toList with
  | nil => exact absurd (by rw [hname]; rfl) hne
  | cons first rest =>
      rw [hname] at hstarts
      exact ⟨first, rest, hname, hstarts List.mem_cons_self,
        fun c hc => .inl (hstarts (List.mem_cons_of_mem _ hc))⟩

/-- The names of the classes that are not refused can be declared in the packaged stub exactly when
the table has a sound name and does not lead to the name of the parent class. An accessor is an
identifier exactly if the name that it comes from is sound. -/
theorem declarable_iff_sound (table : Table) (schema : Schema) :
    ((∀ name, className table = .ok name → Php.IsDeclarable Stub.packagedModel name) ↔
      Convention.IsSound table.name ∧
        Text.eqIgnoringAsciiCase "Model" (Convention.modelName table.name) = false) ∧
    ∀ relationship ∈ Relationship.all .eloquent table schema,
      (Php.IsIdentifier relationship.method ↔ relationship.IsSound) := by
  have hdeclarable : Php.IsDeclarable Stub.packagedModel (Convention.modelName table.name) ↔
      Convention.IsSound table.name ∧
        Text.eqIgnoringAsciiCase "Model" (Convention.modelName table.name) = false := by
    rw [← Convention.isIdentifier_modelName]
    exact isDeclarable_packaged_iff (Convention.modelName table.name)
  constructor
  · rw [← hdeclarable]
    constructor
    · intro hall
      unfold className at hall
      simp only at hall
      split at hall
      case isTrue hreserved => exact isDeclarable_of_reserved hreserved
      case isFalse => exact hall _ rfl
    · intro hname name hclass
      rw [eq_modelName_of_className hclass]
      exact hname
  · intro relationship hmem
    rcases List.mem_append.mp hmem with hone | hmany
    · exact Relationship.isIdentifier_of_mem_belongsTo hone
    · exact Relationship.isIdentifier_of_mem_hasMany hmany

-- Nothing refuses the class of this table, which is `2faToken`.
example : ¬Convention.IsSound "2fa_tokens" :=
  fun hsound => absurd hsound.letter (by decide +kernel)

end Model

end SchemaScaffold
