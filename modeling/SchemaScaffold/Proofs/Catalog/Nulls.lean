import SchemaScaffold.Proofs.Catalog.Export
import SchemaScaffold.Proofs.Json.Pruning
import SchemaScaffold.Proofs.Schema.IndexNames

/-!
# What `null` hides in an export

In an export `null` mostly means that nothing is there: whoever asks for a text, a flag or a list
finds none. It is different where a second key stands for a first one that is missing, for then
`null` under the first key is taken for what is there. There are three such places. A column of an
index is named by its value or else by its name, a value of an enumeration by its name or else by
its value, and a type is declared under either of two spellings of a key; and each time `null` under
the first key hides what stands under the second one.

For each kind of node it is said here what of it is linked, when something is hidden in it, and
that the one changes exactly with the other when keys with `null` are deleted.
-/

namespace SchemaScaffold.Catalog.Export

open Json (Layout NullsHide Pruned StaysShown withoutNulls)

/-- An object that holds no other objects of an export. -/
def plainLayout : Layout := .object fun _ => .fixed

/-- A field, with its type. -/
def fieldLayout : Layout :=
  .object fun
    | "type" => plainLayout
    | _ => .fixed

/-- An index, with its columns. -/
def indexLayout : Layout :=
  .object fun
    | "columns" => .list plainLayout
    | _ => .fixed

/-- A table, with its fields and indexes. -/
def tableLayout : Layout :=
  .object fun
    | "fields" => .list fieldLayout
    | "indexes" => .list indexLayout
    | _ => .fixed

/-- An enumeration, with its values. -/
def enumerationLayout : Layout :=
  .object fun
    | "values" => .list plainLayout
    | _ => .fixed

/-- A ref, with its ends. -/
def refLayout : Layout :=
  .object fun
    | "endpoints" => .list plainLayout
    | _ => .fixed

/-- A schema, with all that it declares. -/
def schemaLayout : Layout :=
  .object fun
    | "tables" => .list tableLayout
    | "enums" => .list enumerationLayout
    | "refs" => .list refLayout
    | _ => .fixed

/-- An export, with its schemas. -/
def layout : Layout :=
  .object fun
    | "schemas" => .list schemaLayout
    | _ => .fixed

section Fixed

variable {part : String → Layout} {before after : Json}

theorem text?_eq_of_pruned (hpruned : Pruned (.object part) before after) (key : String)
    (hfixed : part key = .fixed) : text? after key = text? before key :=
  hpruned.read_eq hfixed (fun found => (found.bind Json.text?).filter (· ≠ "")) rfl

theorem isSet_eq_of_pruned (hpruned : Pruned (.object part) before after) (key : String)
    (hfixed : part key = .fixed) : isSet after key = isSet before key :=
  hpruned.read_eq hfixed (fun found => (found.bind Json.bool?).getD false) rfl

end Fixed

/-- The text under a key, empty when there is none. -/
def textAt (node : Json) (key : String) : String := ((node.get? key).map scalarText).getD ""

/-- The text under the first of two keys that is there. -/
def firstText (node : Json) (first second : String) : String :=
  (((node.get? first).or (node.get? second)).map scalarText).getD ""

theorem textAt_eq_of_pruned {before after : Json} (hpruned : Pruned plainLayout before after)
    (key : String) : textAt after key = textAt before key :=
  hpruned.read_eq rfl (fun found => (found.map scalarText).getD "") rfl

/-- The first text stays the same when keys with `null` are deleted, except that one under the
second key may come into sight that was hidden by `null` under the first. -/
theorem firstText_of_pruned {before after : Json} (hpruned : Pruned plainLayout before after)
    (first second : String) :
    firstText after first second = firstText before first second ∨
      before.get? first = some .null ∧ firstText before first second = "" ∧
        firstText after first second = textAt before second := by
  rcases hpruned.get?_eq first rfl with ⟨hbefore, hafter⟩ | hsame
  · right
    refine ⟨hbefore, ?_, ?_⟩
    · rw [firstText, hbefore]
      rfl
    · rw [firstText, hafter, Option.none_or]
      exact textAt_eq_of_pruned hpruned second
  · left
    rw [firstText, firstText, hsame]
    cases before.get? first with
    | none => exact textAt_eq_of_pruned hpruned second
    | some value => rfl

/-- And it does come into sight when all such keys are deleted. -/
theorem firstText_withoutNulls {node : Json} {first : String} (hnull : node.get? first = some .null)
    (second : String) :
    firstText (withoutNulls plainLayout node) first second = textAt node second := by
  have hnone : (withoutNulls plainLayout node).get? first = none := by
    rw [plainLayout, Json.get?_withoutNulls, hnull]
    rfl
  rw [firstText, hnone, Option.none_or]
  exact textAt_eq_of_pruned (Json.pruned_withoutNulls plainLayout node) second

/-- The name that a column of an index is kept with. -/
def shownName (node : Json) : Option String := (indexColumn node).given?

/-- The column has a name, hidden by `null` for its value. -/
def HidesName (node : Json) : Prop := node.get? "value" = some .null ∧ textAt node "name" ≠ ""

theorem shownName_object (entries : List (String × Json)) :
    shownName (.object entries) =
      if firstText (.object entries) "value" "name" = "" then none
      else some (firstText (.object entries) "value" "name") := rfl

theorem shownName_of_pruned (before after : Json) (hpruned : Pruned plainLayout before after) :
    shownName after = shownName before ∨ HidesName before ∧ shownName before = none := by
  cases hpruned with
  | other => exact .inl rfl
  | @object before after keys hnull hkept =>
      rw [shownName_object, shownName_object]
      rcases firstText_of_pruned (.object keys hnull hkept) "value" "name" with
        hsame | ⟨hvalue, hbefore, hafter⟩
      · exact .inl (by rw [hsame])
      · by_cases hname : textAt (.object before) "name" = ""
        · exact .inl (by rw [hbefore, hafter, hname])
        · exact .inr ⟨⟨hvalue, hname⟩, if_pos hbefore⟩

theorem shownName_withoutNulls (node : Json) (hhides : HidesName node) :
    shownName node = none ∧ (shownName (withoutNulls plainLayout node)).isSome := by
  obtain ⟨hvalue, hname⟩ := hhides
  cases node with
  | object entries =>
      have hbefore : firstText (.object entries) "value" "name" = "" := by
        rw [firstText, hvalue]
        rfl
      have hafter := firstText_withoutNulls hvalue "name"
      obtain ⟨left, hleft⟩ : ∃ left, withoutNulls plainLayout (.object entries) = .object left :=
        Json.exists_withoutNulls_object _ entries
      rw [hleft] at hafter ⊢
      rw [shownName_object, if_pos hbefore, shownName_object, hafter, if_neg hname]
      exact ⟨rfl, rfl⟩
  | _ => cases hvalue

/-- A column of an index loses its name to `null` for its value. -/
theorem nullsHide_name : NullsHide plainLayout shownName HidesName :=
  Json.nullsHide_of_none shownName_of_pruned shownName_withoutNulls

example : HidesName (.object [("value", .null), ("name", .string "email")]) :=
  ⟨rfl, by decide⟩

theorem staysShown_name : StaysShown plainLayout shownName :=
  Json.staysShown_of_none shownName_of_pruned

/-- The text that a value of an enumeration is kept with. -/
def shownValue (node : Json) : Option String := (enumValue? node).map scalarText

/-- The value is there, hidden by `null` for its name. -/
def HidesValue (node : Json) : Prop :=
  node.get? "name" = some .null ∧ ∃ value ∈ node.get? "value", value ≠ .null

theorem shownValue_object (entries : List (String × Json)) :
    shownValue (.object entries) =
      (((((Json.object entries).get? "name").or ((Json.object entries).get? "value")).filter
        (!·.isNull)).map scalarText) := rfl

theorem shownValue_of_pruned (before after : Json) (hpruned : Pruned plainLayout before after) :
    shownValue after = shownValue before ∨ HidesValue before ∧ shownValue before = none := by
  cases hpruned with
  | other => exact .inl rfl
  | @object before after keys hnull hkept =>
      have hpruned : Pruned plainLayout (.object before) (.object after) :=
        .object keys hnull hkept
      have hsecond : ((Json.object after).get? "value").filter (!·.isNull) =
          ((Json.object before).get? "value").filter (!·.isNull) :=
        hpruned.read_eq rfl (fun found => found.filter (!·.isNull)) rfl
      rw [shownValue_object, shownValue_object]
      rcases hpruned.get?_eq "name" rfl with ⟨hbefore, hafter⟩ | hsame
      · rw [hbefore, hafter, Option.none_or, hsecond]
        cases hvalue : (Json.object before).get? "value" with
        | none => exact .inl rfl
        | some value =>
            by_cases hnone : value = .null
            · exact .inl (by rw [hnone]; rfl)
            · exact .inr ⟨⟨hbefore, value, hvalue, hnone⟩, rfl⟩
      · left
        rw [hsame]
        cases (Json.object before).get? "name" with
        | none => rw [Option.none_or, Option.none_or, hsecond]
        | some value => rfl

theorem shownValue_withoutNulls (node : Json) (hhides : HidesValue node) :
    shownValue node = none ∧ (shownValue (withoutNulls plainLayout node)).isSome := by
  obtain ⟨hname, value, hvalue, hsome⟩ := hhides
  have hshown : (some value).filter (!·.isNull) = some value := by
    rw [Option.filter_some, if_pos]
    simpa [← Json.isNull_iff] using hsome
  cases node with
  | object entries =>
      have hfirst : (withoutNulls plainLayout (.object entries)).get? "name" = none := by
        rw [plainLayout, Json.get?_withoutNulls, hname]
        rfl
      have hsecond : (withoutNulls plainLayout (.object entries)).get? "value" = some value := by
        rw [plainLayout, Json.get?_withoutNulls, Option.mem_def.mp hvalue, hshown]
        rfl
      obtain ⟨left, hleft⟩ : ∃ left, withoutNulls plainLayout (.object entries) = .object left :=
        Json.exists_withoutNulls_object _ entries
      rw [hleft] at hfirst hsecond ⊢
      rw [shownValue_object, shownValue_object, hname, hfirst, hsecond, Option.none_or, hshown]
      exact ⟨rfl, rfl⟩
  | _ => cases hname

/-- A value of an enumeration is lost to `null` for its name. -/
theorem nullsHide_value : NullsHide plainLayout shownValue HidesValue :=
  Json.nullsHide_of_none shownValue_of_pruned shownValue_withoutNulls

theorem staysShown_value : StaysShown plainLayout shownValue :=
  Json.staysShown_of_none shownValue_of_pruned

/-- The arguments next to a declaration. -/
def explicitArgs (node : Json) : List String := ((node.get? "args").map textList).getD []

/-- The type of a node with a declaration. -/
def declaredType (node : Json) (declared : String) : Schema.ColumnType where
  name := (splitDeclaration declared).1
  schemaName := (node.get? "schemaName").bind Json.text?
  args := if (explicitArgs node).isEmpty then (splitDeclaration declared).2 else explicitArgs node

/-- The type that a column is linked with. -/
def shownType (node : Json) : Schema.ColumnType where
  name := (type node).name
  schemaName := (type node).schemaName
  args := (type node).args

/-- A type is declared under the second key, and something of this is hidden by `null` under the
first one: its name, or the arguments in it if there are none next to it. -/
def HidesType (node : Json) : Prop :=
  node.get? "type_name" = some .null ∧
    ((splitDeclaration (textAt node "typeName")).1 ≠ "" ∨
      (splitDeclaration (textAt node "typeName")).2 ≠ [] ∧ explicitArgs node = [])

theorem shownType_object (entries : List (String × Json)) :
    shownType (.object entries) =
      declaredType (.object entries) (firstText (.object entries) "type_name" "typeName") := rfl

theorem declaredType_of_pruned {before after : Json} (hpruned : Pruned plainLayout before after)
    (declared : String) : declaredType after declared = declaredType before declared := by
  have hschema : (after.get? "schemaName").bind Json.text? =
      (before.get? "schemaName").bind Json.text? :=
    hpruned.read_eq rfl (fun found => found.bind Json.text?) rfl
  have hargs : explicitArgs after = explicitArgs before :=
    hpruned.read_eq rfl (fun found => (found.map textList).getD []) rfl
  rw [declaredType, declaredType, hschema, hargs]

/-- A declaration says as much as an empty one when it names nothing and its arguments, if it has
any, do not count. -/
theorem declaredType_eq_empty_iff (node : Json) (declared : String) :
    declaredType node declared = declaredType node "" ↔
      ¬((splitDeclaration declared).1 ≠ "" ∨
        (splitDeclaration declared).2 ≠ [] ∧ explicitArgs node = []) := by
  have hempty : splitDeclaration "" = ("", []) := rfl
  rw [declaredType, declaredType, Schema.ColumnType.mk.injEq, hempty]
  cases hargs : explicitArgs node with
  | nil => simp
  | cons arg rest => simp

/-- A type loses its declaration to `null` under the first spelling of the key. -/
theorem nullsHide_type : NullsHide plainLayout shownType HidesType where
  same {before after} hpruned hhides := by
    cases hpruned with
    | other => rfl
    | @object before after keys hnull hkept =>
        have hpruned : Pruned plainLayout (.object before) (.object after) :=
          .object keys hnull hkept
        rw [shownType_object, shownType_object, declaredType_of_pruned hpruned]
        rcases firstText_of_pruned hpruned "type_name" "typeName" with
          hsame | ⟨hfirst, hbefore, hafter⟩
        · rw [hsame]
        · rw [hbefore, hafter]
          exact (declaredType_eq_empty_iff _ _).mpr fun hdeclared => hhides ⟨hfirst, hdeclared⟩
  changed {node} hhides := by
    obtain ⟨hfirst, hdeclared⟩ := hhides
    cases node with
    | object entries =>
        have hbefore : firstText (.object entries) "type_name" "typeName" = "" := by
          rw [firstText, hfirst]
          rfl
        have hafter := firstText_withoutNulls hfirst "typeName"
        have hpruned := Json.pruned_withoutNulls plainLayout (.object entries)
        obtain ⟨left, hleft⟩ : ∃ left, withoutNulls plainLayout (.object entries) = .object left :=
          Json.exists_withoutNulls_object _ entries
        rw [hleft] at hafter hpruned ⊢
        rw [shownType_object, shownType_object, hafter, hbefore, declaredType_of_pruned hpruned]
        exact fun hsame => (declaredType_eq_empty_iff _ _).mp hsame hdeclared
    | _ => cases hfirst

/-- The value for the type of a field. -/
def typeNode (node : Json) : Json := (node.get? "type").getD .null

/-- A field as it is linked, before any ref is resolved. -/
def shownColumn (node : Json) : Schema.Column := Schema.Column.ofCatalog (column node)

/-- Of a field only the type may change. -/
theorem shownColumn_of_pruned {before after : Json} (hpruned : Pruned fieldLayout before after) :
    shownColumn after = { shownColumn before with type := shownType (typeNode after) } := by
  have hdefault : default? ((after.get? "dbdefault").getD .null) =
      default? ((before.get? "dbdefault").getD .null) :=
    hpruned.read_eq rfl (fun found => default? (found.getD .null)) rfl
  simp only [shownColumn, column, Schema.Column.ofCatalog, typeNode, shownType, hdefault,
    text?_eq_of_pruned hpruned "name" rfl, isSet_eq_of_pruned hpruned "pk" rfl,
    isSet_eq_of_pruned hpruned "unique" rfl, isSet_eq_of_pruned hpruned "not_null" rfl,
    isSet_eq_of_pruned hpruned "increment" rfl]

/-- Something is hidden in the type of a field. -/
def HidesInField (node : Json) : Prop := HidesType (typeNode node)

/-- A field changes with its type. -/
theorem nullsHide_field : NullsHide fieldLayout shownColumn HidesInField where
  same {before after} hpruned hhides := by
    have htype : shownType (typeNode after) = shownType (typeNode before) :=
      nullsHide_type.same (hpruned.value rfl) hhides
    rw [shownColumn_of_pruned hpruned, htype]
    rfl
  changed {node} hhides hsame := by
    have hpruned := Json.pruned_withoutNulls fieldLayout node
    have htype := congrArg Schema.Column.type hsame
    rw [shownColumn_of_pruned hpruned, typeNode, fieldLayout, Json.value_withoutNulls] at htype
    exact nullsHide_type.changed hhides htype

/-- An index as it is linked, if it is kept. -/
def shownIndex (node : Json) : Option Schema.Index := Schema.Index.ofCatalog? (index node)

/-- Something is hidden in a column of an index. -/
def HidesInIndex (node : Json) : Prop := ∃ column ∈ list node "columns", HidesName column

theorem givenNames_index (node : Json) :
    (index node).givenNames = (list node "columns").filterMap shownName := by
  show ((list node "columns").map indexColumn).filterMap (·.given?) = _
  rw [List.filterMap_map]
  rfl

/-- Of an index only the columns may change. -/
theorem index_of_pruned {before after : Json} (hpruned : Pruned indexLayout before after) :
    index after = { index before with columns := (list after "columns").map indexColumn } := by
  simp only [index, text?_eq_of_pruned hpruned "name" rfl, text?_eq_of_pruned hpruned "type" rfl,
    isSet_eq_of_pruned hpruned "pk" rfl, isSet_eq_of_pruned hpruned "unique" rfl]

/-- An index stays the same exactly when the names of its columns do. -/
theorem shownIndex_eq_iff {before after : Json} (hpruned : Pruned indexLayout before after) :
    shownIndex after = shownIndex before ↔
      (list after "columns").filterMap shownName = (list before "columns").filterMap shownName := by
  rw [shownIndex, shownIndex, Schema.Index.ofCatalog?_eq_iff, givenNames_index, givenNames_index,
    index_of_pruned hpruned]
  exact and_iff_left fun _ => ⟨rfl, rfl, rfl⟩

/-- An index changes with its columns. -/
theorem nullsHide_index : NullsHide indexLayout shownIndex HidesInIndex where
  same hpruned hhides := by
    refine (shownIndex_eq_iff hpruned).mpr ?_
    exact nullsHide_name.filterMap_eq (hpruned.items "columns" rfl) fun column hcolumn hname =>
      hhides ⟨column, hcolumn, hname⟩
  changed {node} hhides hsame := by
    obtain ⟨column, hcolumn, hname⟩ := hhides
    have hnames := (shownIndex_eq_iff (Json.pruned_withoutNulls indexLayout node)).mp hsame
    rw [list, indexLayout, Json.items_withoutNulls node rfl] at hnames
    exact nullsHide_name.filterMap_ne staysShown_name hcolumn hname hnames

theorem staysShown_index : StaysShown indexLayout shownIndex := by
  intro before after hpruned hshown
  have hkept (node : Json) : (shownIndex node).isSome ↔
      (list node "columns").filterMap shownName ≠ [] := by
    rw [shownIndex, Schema.Index.ofCatalog?_eq, givenNames_index]
    split <;> simp_all
  rw [hkept] at hshown ⊢
  have hlength := staysShown_name.length_le (hpruned.items "columns" rfl)
  exact List.ne_nil_of_length_pos (Nat.lt_of_lt_of_le (List.length_pos_of_ne_nil hshown) hlength)

/-- The name of an enumeration. -/
def enumerationName (node : Json) : String := (text? node "name").getD ""

/-- An enumeration as it is linked. -/
def shownEnumeration (node : Json) : Schema.Enumeration :=
  Schema.Enumeration.ofCatalog (enumeration none node)

/-- Something is hidden in an enumeration. -/
def HidesInEnumeration (node : Json) : Prop := ∃ value ∈ list node "values", HidesValue value

theorem shownEnumeration_eq (node : Json) :
    shownEnumeration node =
      { name := enumerationName node, values := (list node "values").filterMap shownValue } := by
  show Schema.Enumeration.mk _ (((list node "values").filterMap enumValue?).map scalarText) = _
  rw [List.map_filterMap]
  rfl

theorem enumerationName_of_pruned {before after : Json}
    (hpruned : Pruned enumerationLayout before after) :
    enumerationName after = enumerationName before := by
  rw [enumerationName, enumerationName, text?_eq_of_pruned hpruned "name" rfl]

/-- An enumeration changes with its values. -/
theorem nullsHide_enumeration :
    NullsHide enumerationLayout shownEnumeration HidesInEnumeration where
  same hpruned hhides := by
    have hvalues := nullsHide_value.filterMap_eq (hpruned.items "values" rfl)
      fun value hvalue hhidden => hhides ⟨value, hvalue, hhidden⟩
    rw [shownEnumeration_eq, shownEnumeration_eq, enumerationName_of_pruned hpruned]
    exact congrArg _ hvalues
  changed {node} hhides hsame := by
    obtain ⟨value, hvalue, hhidden⟩ := hhides
    have hvalues := congrArg Schema.Enumeration.values hsame
    rw [shownEnumeration_eq, shownEnumeration_eq, list, enumerationLayout,
      Json.items_withoutNulls node rfl] at hvalues
    exact nullsHide_value.filterMap_ne staysShown_value hvalue hhidden hvalues

/-- A table as it is linked, before any ref is resolved. -/
def shownTable (schema : Option String) (node : Json) : Schema.Table :=
  Schema.Table.ofCatalog (table schema node)

/-- Something is hidden in a field or an index of a table. -/
def HidesInTable (node : Json) : Prop :=
  (∃ field ∈ list node "fields", HidesInField field) ∨
    ∃ index ∈ list node "indexes", HidesInIndex index

theorem shownTable_eq (schema : Option String) (node : Json) :
    shownTable schema node =
      { name := (text? node "name").getD ""
        schema := schema.getD Schema.defaultSchema
        columns := (list node "fields").map shownColumn
        indexes := (list node "indexes").filterMap shownIndex } := by
  show Schema.Table.mk _ _ (((list node "fields").map column).map Schema.Column.ofCatalog)
    (((list node "indexes").map index).filterMap Schema.Index.ofCatalog?) = _
  rw [List.map_map, List.filterMap_map]
  rfl

/-- A table changes with its fields and its indexes. -/
theorem nullsHide_table (schema : Option String) :
    NullsHide tableLayout (shownTable schema) HidesInTable where
  same hpruned hhides := by
    have hcolumns := nullsHide_field.map_eq (hpruned.items "fields" rfl)
      fun field hfield hhidden => hhides (.inl ⟨field, hfield, hhidden⟩)
    have hindexes := nullsHide_index.filterMap_eq (hpruned.items "indexes" rfl)
      fun index hindex hhidden => hhides (.inr ⟨index, hindex, hhidden⟩)
    rw [shownTable_eq, shownTable_eq, text?_eq_of_pruned hpruned "name" rfl]
    exact congrArg₂ (Schema.Table.mk _ _) hcolumns hindexes
  changed {node} hhides hsame := by
    rw [shownTable_eq, shownTable_eq, Schema.Table.mk.injEq] at hsame
    obtain ⟨-, -, hcolumns, hindexes⟩ := hsame
    rcases hhides with ⟨field, hfield, hhidden⟩ | ⟨index, hindex, hhidden⟩
    · rw [list, tableLayout, Json.items_withoutNulls node rfl] at hcolumns
      exact nullsHide_field.map_ne hfield hhidden hcolumns
    · rw [list, tableLayout, Json.items_withoutNulls node rfl] at hindexes
      exact nullsHide_index.filterMap_ne staysShown_index hindex hhidden hindexes

end SchemaScaffold.Catalog.Export
