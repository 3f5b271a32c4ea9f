import SchemaScaffold.Catalog.OfJson
import SchemaScaffold.Proofs.Catalog.Nulls
import SchemaScaffold.Proofs.Json.Record

/-!
# An index in an export and in a catalog

An export and a catalog write an index with the same keys, and the same object may stand in
either. The two are read with different care. An export leaves names and types open that are
empty texts, and takes the type `unique` for the flag of that name; a catalog takes all three as
they stand, for it says by itself what an export implies. And of a column that has two names, an
export takes its value and a catalog its name.

These are all the differences, and the result says so: from one object both make the same index,
or none, exactly when it is beyond each of them. What an export makes of a column whose value is
`null` beside a name is left open here.
-/

namespace SchemaScaffold.Catalog.Index

/-- A text, or `null` for none. -/
inductive IsOptionalText : Json → Prop
  | null : IsOptionalText .null
  | text (text : String) : IsOptionalText (.string text)

/-- A truth value, or `null` for none. -/
inductive IsOptionalFlag : Json → Prop
  | null : IsOptionalFlag .null
  | bool (value : Bool) : IsOptionalFlag (.bool value)

/-- The text under a key, if one stands there. -/
def textUnder (entries : List (String × Json)) (key : String) : Option String :=
  (entries.lookup key).bind Json.text?

/-- A column of an index is written as its name, or as an object with a name, a value or both. -/
inductive IsColumn : Json → Prop
  | bare (name : String) : IsColumn (.string name)
  | described {entries : List (String × Json)} (hkeys : (entries.map Prod.fst).Nodup)
      (hname : ∀ value ∈ entries.lookup "name", IsOptionalText value)
      (hvalue : ∀ value ∈ entries.lookup "value", IsOptionalText value) :
      IsColumn (.object entries)

/-- The entries of an object for an index. Any of the keys may be missing, and other keys may
stand there, but not the flag by which an export tells primary keys. -/
structure IsForm (entries : List (String × Json)) : Prop where
  keys : (entries.map Prod.fst).Nodup
  name : ∀ value ∈ entries.lookup "name", IsOptionalText value
  kind : ∀ value ∈ entries.lookup "type", IsOptionalText value
  unique : ∀ value ∈ entries.lookup "unique", IsOptionalFlag value
  columns : ∀ value ∈ entries.lookup "columns", ∃ columns, value = .array columns ∧
    ∀ column ∈ columns, IsColumn column
  primary : entries.lookup "pk" = none

/-- The columns that an object for an index lists. -/
def columnsUnder (entries : List (String × Json)) : List Json :=
  ((entries.lookup "columns").bind Json.items?).getD []

/-- Whether an object for an index has the flag for unique ones. -/
def uniqueUnder (entries : List (String × Json)) : Bool :=
  ((entries.lookup "unique").bind Json.bool?).getD false

/-- The name of a column that prefers the text under one key to the text under another. -/
def nameOf (preferred other : String) : Json → String
  | .string name => name
  | .object entries => ((textUnder entries preferred).or (textUnder entries other)).getD ""
  | _ => ""

/-- The names of columns that have one. -/
def namesOf (preferred other : String) (columns : List Json) : List String :=
  (columns.map (nameOf preferred other)).filter (· ≠ "")

/-- An optional text is read as the text it is. -/
theorem readOptional_of_isOptionalText {value : Json} (hvalue : IsOptionalText value) :
    Json.readOptional Json.readText value = .ok value.text? := by
  cases hvalue with
  | null => rfl
  | text text => rfl

/-- Under a key for an optional text its text is read. -/
theorem readUnder_text {entries : List (String × Json)} {key : String}
    (hkey : ∀ value ∈ entries.lookup key, IsOptionalText value) :
    Json.readUnder (Json.readOptional Json.readText) none entries key =
      .ok (textUnder entries key) := by
  rw [Json.readUnder, textUnder]
  cases hlookup : entries.lookup key with
  | none => rfl
  | some value => exact readOptional_of_isOptionalText (hkey value hlookup)

/-- Under the key for unique indexes the flag is read. -/
theorem readUnder_unique {entries : List (String × Json)}
    (hkey : ∀ value ∈ entries.lookup "unique", IsOptionalFlag value) :
    Json.readUnder (lenient flag) false entries "unique" = .ok (uniqueUnder entries) := by
  rw [Json.readUnder, uniqueUnder]
  cases hlookup : entries.lookup "unique" with
  | none => rfl
  | some value =>
      cases hkey value hlookup with
      | null => rfl
      | bool value => rfl

/-- A column that is an object holds what stands under its two keys. -/
theorem fields_of_readByKey {entries : List (String × Json)}
    (hkeys : (entries.map Prod.fst).Nodup)
    (hname : ∀ value ∈ entries.lookup "name", IsOptionalText value)
    (hvalue : ∀ value ∈ entries.lookup "value", IsOptionalText value)
    {record : Option String × Option String}
    (hread : Json.readByKey IndexColumn.fields (none, none) entries = .ok record) :
    record = (textUnder entries "name", textUnder entries "value") := by
  have hfirst := Json.readUnder_of_readByKey hread hkeys Prod.fst (by decide)
    (List.forall_mem_cons.mpr ⟨.self fun _ _ => rfl,
      List.forall_mem_singleton.mpr (.other (by decide) fun _ _ => rfl)⟩)
  have hsecond := Json.readUnder_of_readByKey hread hkeys Prod.snd (by decide)
    (List.forall_mem_cons.mpr ⟨.other (by decide) fun _ _ => rfl,
      List.forall_mem_singleton.mpr (.self fun _ _ => rfl)⟩)
  rw [readUnder_text hname] at hfirst
  rw [readUnder_text hvalue] at hsecond
  exact Prod.ext (Except.ok.inj hfirst).symm (Except.ok.inj hsecond).symm

/-- A catalog accepts each column, and names it by its name rather than by its value. -/
theorem exists_column_of_isColumn {column : Json} (hcolumn : IsColumn column) :
    ∃ record, IndexColumn.ofJson column = .ok record ∧
      record.columnName = nameOf "name" "value" column := by
  cases hcolumn with
  | bare name => exact ⟨.bare name, rfl, rfl⟩
  | @described entries hkeys hname hvalue =>
      have hfields : ∀ field ∈ IndexColumn.fields, ∀ value ∈ entries.lookup field.key,
          ∀ record, ∃ next, field.read value record = .ok next := by
        refine List.forall_mem_cons.mpr ⟨fun value hlookup => ?_,
          List.forall_mem_singleton.mpr fun value hlookup => ?_⟩
        · exact Json.RecordField.exists_read
            (readOptional_of_isOptionalText (hname value hlookup))
        · exact Json.RecordField.exists_read
            (readOptional_of_isOptionalText (hvalue value hlookup))
      obtain ⟨record, hread⟩ := Json.exists_readByKey hkeys hfields (none, none)
      obtain rfl := fields_of_readByKey hkeys hname hvalue hread
      refine ⟨.described (textUnder entries "name") (textUnder entries "value"), ?_, rfl⟩
      rw [IndexColumn.ofJson, hread]

/-- A catalog accepts the columns that an object for an index lists. -/
theorem exists_columns_of_isForm {entries : List (String × Json)} (hform : IsForm entries) :
    ∃ columns, Json.readUnder (Json.readList IndexColumn.ofJson) [] entries "columns" =
        .ok columns ∧
      columns.map (·.columnName) = (columnsUnder entries).map (nameOf "name" "value") := by
  rw [Json.readUnder, columnsUnder]
  cases hlookup : entries.lookup "columns" with
  | none => exact ⟨[], rfl, rfl⟩
  | some value =>
      obtain ⟨columns, rfl, hcolumns⟩ := hform.columns value hlookup
      exact Json.exists_readList fun column hcolumn =>
        exists_column_of_isColumn (hcolumns column hcolumn)

/-- What an index that a catalog reads holds of each of its keys. -/
theorem readUnder_of_ofJson {entries : List (String × Json)}
    (hkeys : (entries.map Prod.fst).Nodup) {record : Index}
    (hread : Index.ofJson (.object entries) = .ok record) :
    Json.readUnder (Json.readOptional Json.readText) none entries "name" = .ok record.name ∧
      Json.readUnder (Json.readOptional Json.readText) none entries "type" = .ok record.kind ∧
      Json.readUnder (lenient flag) false entries "unique" = .ok record.unique ∧
      Json.readUnder (Json.readList IndexColumn.ofJson) [] entries "columns" =
        .ok record.columns := by
  refine ⟨Json.readUnder_of_readByKey hread hkeys Index.name (by decide) ?_,
    Json.readUnder_of_readByKey hread hkeys Index.kind (by decide) ?_,
    Json.readUnder_of_readByKey hread hkeys Index.unique (by decide) ?_,
    Json.readUnder_of_readByKey hread hkeys Index.columns (by decide) ?_⟩
  all_goals simp only [List.forall_mem_cons]
  · exact ⟨.self fun _ _ => rfl, .other (by decide) fun _ _ => rfl,
      .other (by decide) fun _ _ => rfl, .other (by decide) fun _ _ => rfl, nofun⟩
  · exact ⟨.other (by decide) fun _ _ => rfl, .self fun _ _ => rfl,
      .other (by decide) fun _ _ => rfl, .other (by decide) fun _ _ => rfl, nofun⟩
  · exact ⟨.other (by decide) fun _ _ => rfl, .other (by decide) fun _ _ => rfl,
      .self fun _ _ => rfl, .other (by decide) fun _ _ => rfl, nofun⟩
  · exact ⟨.other (by decide) fun _ _ => rfl, .other (by decide) fun _ _ => rfl,
      .other (by decide) fun _ _ => rfl, .self fun _ _ => rfl, nofun⟩

/-- A catalog accepts each object for an index, and takes what stands in it as it is. -/
theorem exists_ofJson_of_isForm {entries : List (String × Json)} (hform : IsForm entries) :
    ∃ record, Index.ofJson (.object entries) = .ok record ∧
      record.name = textUnder entries "name" ∧ record.kind = textUnder entries "type" ∧
      record.unique = uniqueUnder entries ∧
      record.columns.map (·.columnName) =
        (columnsUnder entries).map (nameOf "name" "value") := by
  obtain ⟨columns, hcolumns, hnames⟩ := exists_columns_of_isForm hform
  have hread : ∃ record, Index.ofJson (.object entries) = .ok record := by
    rw [Index.ofJson, Json.readRecord]
    refine Json.exists_readByKey hform.keys ?_ _
    simp only [List.forall_mem_cons]
    refine ⟨fun value hvalue => ?_, fun value hvalue => ?_, fun value _ => ?_,
      fun value hvalue => ?_, nofun⟩
    · exact Json.RecordField.exists_read (readOptional_of_isOptionalText (hform.name value hvalue))
    · exact Json.RecordField.exists_read (readOptional_of_isOptionalText (hform.kind value hvalue))
    · exact Json.RecordField.exists_read rfl
    · have hlookup : entries.lookup "columns" = some value := hvalue
      rw [Json.readUnder, hlookup] at hcolumns
      exact Json.RecordField.exists_read hcolumns
  obtain ⟨record, hread⟩ := hread
  obtain ⟨hname, hkind, hunique, hlist⟩ := readUnder_of_ofJson hform.keys hread
  rw [readUnder_text hform.name] at hname
  rw [readUnder_text hform.kind] at hkind
  rw [readUnder_unique hform.unique] at hunique
  rw [hcolumns] at hlist
  refine ⟨record, hread, (Except.ok.inj hname).symm, (Except.ok.inj hkind).symm,
    (Except.ok.inj hunique).symm, ?_⟩
  rw [← Except.ok.inj hlist, hnames]

/-- What an export takes for an optional text, empty when there is none. -/
theorem textAt_object {entries : List (String × Json)} {key : String}
    (hkey : ∀ value ∈ entries.lookup key, IsOptionalText value) :
    Export.textAt (.object entries) key = (textUnder entries key).getD "" := by
  show ((entries.lookup key).map scalarText).getD "" = _
  rw [textUnder]
  cases hlookup : entries.lookup key with
  | none => rfl
  | some value =>
      cases hkey value hlookup with
      | null => rfl
      | text text => rfl

/-- An export names a column by its value rather than by its name. -/
theorem columnName_indexColumn {column : Json} (hcolumn : IsColumn column)
    (hshown : ¬Export.HidesName column) :
    (Export.indexColumn column).columnName = nameOf "value" "name" column := by
  cases hcolumn with
  | bare name => rfl
  | @described entries hkeys hname hvalue =>
      show (((entries.lookup "value").or (entries.lookup "name")).map scalarText).getD "" =
        ((textUnder entries "value").or (textUnder entries "name")).getD ""
      rw [textUnder]
      cases hfirst : entries.lookup "value" with
      | none => exact textAt_object hname
      | some value =>
          cases hvalue value hfirst with
          | null =>
              have hempty : Export.textAt (.object entries) "name" = "" :=
                Decidable.not_not.mp fun hne => hshown ⟨hfirst, hne⟩
              rw [textAt_object hname] at hempty
              exact hempty.symm
          | text text => rfl

/-- The type that stands for the flag is not an empty text. -/
theorem filter_eq_some_unique (kind : Option String) :
    (kind.filter (· ≠ "") == some "unique") = (kind == some "unique") := by
  cases kind with
  | none => rfl
  | some kind =>
      by_cases hempty : kind = ""
      · subst hempty
        rfl
      · rw [Option.filter_some, if_pos (decide_eq_true hempty)]

/-- What an export reads of an object for an index: names and types that are empty texts are left
open, and the type may stand for the flag. -/
theorem index_object {entries : List (String × Json)} (hprimary : entries.lookup "pk" = none) :
    Export.index (.object entries) =
      { name := (textUnder entries "name").filter (· ≠ "")
        kind := (textUnder entries "type").filter (· ≠ "")
        unique := textUnder entries "type" == some "unique" || uniqueUnder entries
        columns := (columnsUnder entries).map Export.indexColumn } := by
  have hunset : Export.isSet (.object entries) "pk" = false := by
    show ((entries.lookup "pk").bind Json.bool?).getD false = false
    rw [hprimary]
    rfl
  rw [← filter_eq_some_unique, Export.index, hunset]
  rfl

/-- The columns of an object for an index are written as columns are. -/
theorem isColumn_of_mem_columnsUnder {entries : List (String × Json)} (hform : IsForm entries)
    {column : Json} (hcolumn : column ∈ columnsUnder entries) : IsColumn column := by
  rw [columnsUnder] at hcolumn
  cases hlookup : entries.lookup "columns" with
  | none =>
      rw [hlookup] at hcolumn
      cases hcolumn
  | some value =>
      obtain ⟨columns, rfl, hcolumns⟩ := hform.columns value hlookup
      rw [hlookup] at hcolumn
      exact hcolumns column hcolumn

/-- The columns that an export reads are named by their values rather than by their names. -/
theorem filter_columnName_index {entries : List (String × Json)} (hform : IsForm entries)
    (hshown : ∀ column ∈ columnsUnder entries, ¬Export.HidesName column) :
    (((columnsUnder entries).map Export.indexColumn).map (·.columnName)).filter (· ≠ "") =
      namesOf "value" "name" (columnsUnder entries) := by
  rw [List.map_map, namesOf]
  congr 1
  exact List.map_congr_left fun column hcolumn =>
    columnName_indexColumn (isColumn_of_mem_columnsUnder hform hcolumn) (hshown column hcolumn)

/-- An optional text is untouched by leaving out empty texts when it is none. -/
theorem filter_eq_self_iff (text : Option String) :
    text.filter (· ≠ "") = text ↔ text ≠ some "" := by
  cases text with
  | none => simp
  | some text => simp

/-- A truth value is untouched by a reason for it when it holds for this reason. -/
theorem or_eq_right_iff (kind : Option String) (unique : Bool) :
    (kind == some "unique" || unique) = unique ↔ (kind = some "unique" → unique = true) := by
  cases unique <;> simp

/-- Read from an export or from a catalog, an object for an index becomes the same index of a
schema, or none, exactly when its columns have the same names by their values as by their names
and, if there are any, neither its name nor its type is an empty text and the type `unique` comes
with the flag. A catalog accepts every such object. -/
theorem stored_alike_iff {entries : List (String × Json)} (hform : IsForm entries)
    (hshown : ∀ column ∈ columnsUnder entries, ¬Export.HidesName column) :
    ∃ record, Index.ofJson (.object entries) = .ok record ∧
      (Schema.Index.ofCatalog? (Export.index (.object entries)) =
          Schema.Index.ofCatalog? record ↔
        namesOf "value" "name" (columnsUnder entries) =
            namesOf "name" "value" (columnsUnder entries) ∧
          (namesOf "name" "value" (columnsUnder entries) ≠ [] →
            textUnder entries "name" ≠ some "" ∧ textUnder entries "type" ≠ some "" ∧
              (textUnder entries "type" = some "unique" → uniqueUnder entries = true))) := by
  obtain ⟨record, hread, hname, hkind, hunique, hcolumns⟩ := exists_ofJson_of_isForm hform
  have hbyName : record.givenNames = namesOf "name" "value" (columnsUnder entries) := by
    rw [← record.filter_columnName, hcolumns, namesOf]
  have hbyValue : (Export.index (.object entries)).givenNames =
      namesOf "value" "name" (columnsUnder entries) := by
    rw [← Index.filter_columnName, index_object hform.primary, filter_columnName_index hform hshown]
  refine ⟨record, hread, ?_⟩
  rw [Schema.Index.ofCatalog?_eq_iff, hbyName, hbyValue, index_object hform.primary, hname, hkind,
    hunique, filter_eq_self_iff, filter_eq_self_iff, or_eq_right_iff]

/-- An index on three columns, each of which is written in its own way. -/
def translationKey : List (String × Json) :=
  [("columns", .array
      [.string "post_id", .object [("name", .null), ("value", .string "locale")],
       .object [("type", .string "column"), ("name", .string "version")]]),
   ("unique", .bool true), ("name", .null), ("type", .string "btree")]

theorem isForm_translationKey : IsForm translationKey where
  keys := by decide
  name := by rintro _ ⟨⟩; exact .null
  kind := by rintro _ ⟨⟩; exact .text "btree"
  unique := by rintro _ ⟨⟩; exact .bool true
  columns := by
    rintro _ ⟨⟩
    refine ⟨_, rfl, ?_⟩
    simp only [List.forall_mem_cons]
    refine ⟨.bare "post_id", .described (by decide) ?_ ?_, .described (by decide) ?_ ?_, nofun⟩
    · rintro _ ⟨⟩; exact .null
    · rintro _ ⟨⟩; exact .text "locale"
    · rintro _ ⟨⟩; exact .text "version"
    · nofun
  primary := rfl

/-- The index is the same one from both. -/
theorem translationKey_stored_alike :
    Schema.Index.ofCatalog? (Export.index (.object translationKey)) =
        some { name := none, columns := ["post_id", "locale", "version"], unique := true
               kind := some "btree" } ∧
      ∃ record, Index.ofJson (.object translationKey) = .ok record ∧
        Schema.Index.ofCatalog? (Export.index (.object translationKey)) =
          Schema.Index.ofCatalog? record := by
  have hshown : ∀ column ∈ columnsUnder translationKey, ¬Export.HidesName column := by
    refine List.forall_mem_cons.mpr ⟨?_, List.forall_mem_cons.mpr
      ⟨?_, List.forall_mem_singleton.mpr ?_⟩⟩
    all_goals
      rintro ⟨hnull, -⟩
      cases hnull
  obtain ⟨record, hread, halike⟩ := stored_alike_iff isForm_translationKey hshown
  exact ⟨rfl, record, hread, halike.mpr (by decide)⟩

/-- An index whose type says that it is unique, without the flag. -/
def emailKey : List (String × Json) :=
  [("type", .string "unique"), ("columns", .array [.string "email"])]

/-- From an export the index is unique, and from a catalog it is not. -/
theorem emailKey_stored_differently :
    IsForm emailKey ∧
      Index.ofJson (.object emailKey) =
        .ok { kind := some "unique", columns := [.bare "email"] } ∧
      Schema.Index.ofCatalog? (Export.index (.object emailKey)) =
        some { name := none, columns := ["email"], unique := true, kind := some "unique" } ∧
      Schema.Index.ofCatalog? { kind := some "unique", columns := [.bare "email"] } =
        some { name := none, columns := ["email"], unique := false, kind := some "unique" } := by
  refine ⟨⟨by decide, nofun, ?_, nofun, ?_, rfl⟩, rfl, rfl, rfl⟩
  · rintro _ ⟨⟩
    exact .text "unique"
  · rintro _ ⟨⟩
    exact ⟨_, rfl, List.forall_mem_singleton.mpr (.bare "email")⟩

end SchemaScaffold.Catalog.Index
