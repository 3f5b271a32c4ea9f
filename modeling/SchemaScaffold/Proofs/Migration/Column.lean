import SchemaScaffold.Migration
import SchemaScaffold.Proofs.Php.Word

/-!
# What the statement of a column says

The statement that creates a column is written piece by piece from the flags of the column, its
type, its default and its reference. Here it is read back: whatever texts the column and the schema
hold, the statement is one statement on `$table` whose calls and arguments are `Column.calls`, a
rule that speaks of calls and decoded texts only and never of the written line.

The words of numbers and constants are taken as they stand; what they mean to the framework is not
looked at here.
-/

namespace SchemaScaffold.Migration

open Php (Argument MethodCall Statement IsBareWord)
open Schema (Column DefaultValue Reference)

/-- The arguments of a storage behind the name of the column: numbers without quotes, and the
values of an enumeration in one array. -/
def storageArguments : Storage → List Argument
  | .decimal precision scale => [.bare precision.repr, .bare scale.repr]
  | .char length | .string length => if length = defaultLength then [] else [.bare length.repr]
  | .enum values => [.texts values]
  | _ => []

/-- The argument of a default that is a text: a constant or a number when it is tagged as one and
spells one, and else the text itself. -/
def textArgument (text : String) (kind : Option String) : Argument :=
  if kind = some "boolean" ∧ Text.toLower (Text.trim text) ∈ ["true", "false", "null"] then
    .bare (Text.toLower (Text.trim text))
  else if kind = some "number" ∧ Decimal.isSpelt (Text.trim text).toList then
    .bare (Text.trim text)
  else .text text

/-- The argument of a default: a constant, a number, a quoted text, or a text to be taken raw. -/
def defaultArgument (default : DefaultValue) : Argument :=
  if default.isExpression ∧ default.value.isNull = false then
    .static "DB" "raw" (Catalog.scalarText default.value)
  else
    match default.value with
    | .null => .bare "null"
    | .bool true => .bare "true"
    | .bool false => .bare "false"
    | .number number => .bare number.render
    | .string text => textArgument text default.kind
    | other => .text other.render

/-- A column is declared as a foreign key when it does not count up, its type stands for no
enumeration of the schema, and it has a reference. -/
def IsForeignKey (column : Column) (schema : Schema) : Prop :=
  ¬(column.primaryKey = true ∧ column.autoIncrement = true) ∧
    schema.enumFor column.type = none ∧ column.references ≠ []

instance (column : Column) (schema : Schema) : Decidable (IsForeignKey column schema) :=
  inferInstanceAs (Decidable (_ ∧ _ ∧ _))

/-- The call that declares the column. -/
def baseCall (column : Column) (schema : Schema) : MethodCall :=
  if column.primaryKey = true ∧ column.autoIncrement = true then
    { method := incrementsMethod column.type, arguments := [.text column.name] }
  else if IsForeignKey column schema then
    { method := if TypeFamily.ofName column.type.name = .uuid then "foreignUuid" else "foreignId"
      arguments := [.text column.name] }
  else
    let storage := Storage.ofType column.type (schema.enumFor column.type)
    { method := storage.method, arguments := .text column.name :: storageArguments storage }

/-- The calls that change what was declared. -/
def modifierCalls (column : Column) : List MethodCall :=
  (if column.notNull = false ∧ column.primaryKey = false then [{ method := "nullable" }] else []) ++
  (column.defaultValue.toList.map fun default =>
    { method := "default", arguments := [defaultArgument default] }) ++
  (if column.unique = true ∧ column.primaryKey = false then [{ method := "unique" }] else []) ++
  (if column.primaryKey = true ∧ column.autoIncrement = false then [{ method := "primary" }]
    else [])

/-- The calls for a reference: the constraint with the table and the column that it leads to, and
the two actions that are known by name. The column is left out when it is the usual one or there is
none. -/
def referenceCalls (reference : Reference) : List MethodCall :=
  [{ method := "constrained"
     arguments := .text reference.table ::
       if reference.column.getD "id" = "id" then [] else [.text (reference.column.getD "id")] }] ++
  ((reference.onDelete.bind ReferentialAction.ofText?).toList.map fun action =>
    { method := action.onDelete }) ++
  ((reference.onUpdate.bind ReferentialAction.ofText?).toList.map fun action =>
    { method := action.onUpdate })

/-- The constraint of a foreign key, for the reference that counts. -/
def constraint (column : Column) (schema : Schema) : List MethodCall :=
  if IsForeignKey column schema then column.references.head?.toList.flatMap referenceCalls else []

/-- All calls of the statement that creates a column, in their order. -/
def calls (column : Column) (schema : Schema) : List MethodCall :=
  baseCall column schema :: modifierCalls column ++ constraint column schema

/-- A text default is written as the text of its argument. -/
theorem render_textArgument (text : String) (kind : Option String) :
    (textArgument text kind).render = DefaultValue.textExpression text kind := by
  unfold textArgument DefaultValue.textExpression
  by_cases hboolean : kind = some "boolean"
  · by_cases hword : Text.toLower (Text.trim text) ∈ ["true", "false", "null"]
    · rw [if_pos ⟨hboolean, hword⟩, if_pos hboolean, if_pos (by simpa using hword)]
      rfl
    · have hnumber : ¬(kind = some "number" ∧ Decimal.isSpelt (Text.trim text).toList = true) := by
        simp [hboolean]
      rw [if_neg fun h => hword h.2, if_neg hnumber, if_pos hboolean,
        if_neg (by simpa using hword)]
      rfl
  · rw [if_neg fun h => hboolean h.1, if_neg hboolean]
    split <;> rfl

/-- A default is written as the text of its argument. -/
theorem render_defaultArgument (default : DefaultValue) :
    (defaultArgument default).render = default.expression := by
  obtain ⟨value, kind⟩ := default
  unfold defaultArgument DefaultValue.expression
  cases value with
  | null => simp [Json.isNull, Argument.render]
  | bool value => cases value <;> split <;> simp_all [Json.isNull, Argument.render, Json.render]
  | string text =>
      simp only [← render_textArgument, Json.isNull, and_true]
      split <;> rfl
  | number _ | array _ | object _ =>
      split <;> simp_all [Json.isNull, Argument.render, Json.render]

/-- The words that are written as they stand are bare words. -/
theorem isBareWord_fixed : ∀ word ∈ ["true", "false", "null", "DB", "raw", "foreignUuid",
    "foreignId", "nullable", "default", "unique", "primary"], IsBareWord word := by
  decide +kernel

/-- The words of a text default are bare words. -/
theorem textArgument_wellFormed (text : String) (kind : Option String) :
    (textArgument text kind).WellFormed := by
  unfold textArgument
  split
  · next hboolean => exact isBareWord_fixed _ (List.mem_append_left _ hboolean.2)
  · split
    · next hnumber =>
        have hword := Php.isBareWord_of_isSpelt hnumber.2
        rwa [String.ofList_toList] at hword
    · trivial

/-- The words of a default are bare words. -/
theorem defaultArgument_wellFormed (default : DefaultValue) :
    (defaultArgument default).WellFormed := by
  unfold defaultArgument
  split
  · exact ⟨isBareWord_fixed _ (by simp), isBareWord_fixed _ (by simp)⟩
  · split
    · exact isBareWord_fixed _ (by simp)
    · exact isBareWord_fixed _ (by simp)
    · exact isBareWord_fixed _ (by simp)
    · exact Php.isBareWord_render _
    · exact textArgument_wellFormed _ _
    · trivial

/-- The arguments of a storage are written as the texts of its arguments. -/
theorem render_storageArguments (storage : Storage) :
    (storageArguments storage).map Argument.render = storage.arguments := by
  cases storage with
  | char length | string length =>
      simp only [storageArguments, Storage.arguments]
      split <;> simp [Argument.render]
  | _ => simp [storageArguments, Storage.arguments, Argument.render]

/-- The words of a storage are bare words. -/
theorem storageArguments_wellFormed (storage : Storage) :
    ∀ argument ∈ storageArguments storage, argument.WellFormed := by
  intro argument hargument
  cases storage with
  | decimal precision scale =>
      simp only [storageArguments, List.mem_cons, List.not_mem_nil, or_false] at hargument
      rcases hargument with rfl | rfl <;> exact Php.isBareWord_natRepr _
  | char length | string length =>
      simp only [storageArguments] at hargument
      split at hargument
      · simp at hargument
      · obtain rfl := List.mem_singleton.mp hargument
        exact Php.isBareWord_natRepr _
  | enum values =>
      obtain rfl := List.mem_singleton.mp hargument
      trivial
  | _ => simp [storageArguments] at hargument

/-- The methods of storages are words. -/
theorem isBareWord_storageMethod (storage : Storage) : IsBareWord storage.method := by
  cases storage <;> simp only [Storage.method] <;> decide +kernel

/-- The methods for keys that count up are words. -/
theorem isBareWord_incrementsMethod (type : Schema.ColumnType) :
    IsBareWord (incrementsMethod type) := by
  unfold incrementsMethod
  split <;> decide +kernel

/-- A foreign key is declared by its own call and constraint. -/
theorem declaration_of_isForeignKey {column : Column} {schema : Schema} {reference : Reference}
    {others : List Reference} (hforeign : IsForeignKey column schema)
    (hreferences : column.references = reference :: others) :
    declaration column schema = (foreignCall column, constraintCalls reference) := by
  obtain ⟨hkey, henum, -⟩ := hforeign
  have hkey : column.isAutoIncrementKey = false := by
    simpa [Column.isAutoIncrementKey] using hkey
  rw [declaration, hkey, if_neg (by simp), henum, Column.foreignKey, hreferences, List.head?_cons]

/-- A column that neither counts up nor is a foreign key is declared by its storage. -/
theorem declaration_of_not_isForeignKey {column : Column} {schema : Schema}
    (hkey : ¬(column.primaryKey = true ∧ column.autoIncrement = true))
    (hforeign : ¬IsForeignKey column schema) :
    declaration column schema =
      ((Storage.ofType column.type (schema.enumFor column.type)).directive column.name, []) := by
  have hkey' : column.isAutoIncrementKey = false := by
    simpa [Column.isAutoIncrementKey] using hkey
  rw [declaration, hkey', if_neg (by simp), Column.foreignKey]
  cases henum : schema.enumFor column.type with
  | some enumeration => rfl
  | none =>
      cases hreferences : column.references with
      | nil => rfl
      | cons reference others =>
          exact absurd ⟨hkey, henum, by simp [hreferences]⟩ hforeign

/-- A call with one literal is written as its method and the literal. -/
theorem toCall_text (method text : String) :
    MethodCall.toCall { method, arguments := [.text text] } =
      { method, arguments := Php.literal text } := by
  simp only [MethodCall.toCall, List.map_cons, List.map_nil, Text.joined, Argument.render]

/-- The constraint of a reference is written as the texts of its calls. -/
theorem toCall_referenceCalls (reference : Reference) :
    (referenceCalls reference).map MethodCall.toCall = constraintCalls reference := by
  have htarget : (if reference.column.getD "id" = "id" then []
      else [Argument.text (reference.column.getD "id")]).map Argument.render =
        reference.key.toList.map Php.literal := by
    unfold Reference.key Reference.target Schema.defaultTarget
    split <;> rfl
  simp only [referenceCalls, constraintCalls, List.map_append, List.map_cons, List.map_nil,
    MethodCall.toCall, htarget, Argument.render, List.map_map, Function.comp_def, Option.toList_map,
    Text.joined]

/-- The call that declares a column and its constraint are written as the texts of the calls. -/
theorem declaration_eq (column : Column) (schema : Schema) :
    declaration column schema =
      ((baseCall column schema).toCall, (constraint column schema).map MethodCall.toCall) := by
  by_cases hkey : column.primaryKey = true ∧ column.autoIncrement = true
  · have hforeign : ¬IsForeignKey column schema := fun h => h.1 hkey
    have hcounts : column.isAutoIncrementKey = true := by
      simpa [Column.isAutoIncrementKey] using hkey
    rw [declaration, if_pos hcounts, baseCall, if_pos hkey, constraint, if_neg hforeign,
      toCall_text, List.map_nil]
  · by_cases hforeign : IsForeignKey column schema
    · obtain ⟨reference, others, hreferences⟩ := List.exists_cons_of_ne_nil hforeign.2.2
      rw [declaration_of_isForeignKey hforeign hreferences, baseCall, if_neg hkey,
        if_pos hforeign, constraint, if_pos hforeign, hreferences, toCall_text]
      simp only [List.head?_cons, Option.toList_some, List.flatMap_cons, List.flatMap_nil,
        List.append_nil, toCall_referenceCalls, foreignCall]
    · rw [declaration_of_not_isForeignKey hkey hforeign, baseCall, if_neg hkey, if_neg hforeign,
        constraint, if_neg hforeign]
      simp only [MethodCall.toCall, List.map_cons, render_storageArguments, Storage.directive,
        Argument.render, List.map_nil]

/-- A call without arguments is written as its method. -/
theorem toCall_bare (method : String) :
    MethodCall.toCall { method } = { method } := by
  simp only [MethodCall.toCall, List.map_nil, Text.joined]

/-- The modifiers are written as the texts of their calls. -/
theorem toCall_modifierCalls (column : Column) :
    (modifierCalls column).map MethodCall.toCall = modifiers column := by
  have hflag (wanted : Prop) [Decidable wanted] (method : String) :
      (if wanted then [({ method } : MethodCall)] else []).map MethodCall.toCall =
        if wanted then [{ method }] else [] := by
    split
    · rw [List.map_singleton, toCall_bare]
    · rfl
  have hdefault : (column.defaultValue.toList.map fun default =>
      ({ method := "default", arguments := [defaultArgument default] } : MethodCall)).map
        MethodCall.toCall =
      (column.defaultValue.map fun value =>
        { method := "default", arguments := value.expression : Php.Call }).toList := by
    cases column.defaultValue with
    | none => rfl
    | some default =>
        simp only [Option.toList_some, List.map_cons, List.map_nil, MethodCall.toCall,
          Text.joined, render_defaultArgument, Option.map_some]
  simp only [modifierCalls, modifiers, List.map_append, hflag, hdefault, Column.isNullable,
    Bool.and_eq_true, Bool.not_eq_true']

/-- The line that creates a column depends on no more of a schema than its enumerations. -/
theorem columnStatement_congr {first second : Schema} (henums : first.enums = second.enums)
    (column : Column) : columnStatement column first = columnStatement column second := by
  simp only [columnStatement, declaration, Schema.enumFor, henums]

/-- The line that creates a column is the text of its calls. -/
theorem columnStatement_eq (column : Column) (schema : Schema) :
    columnStatement column schema =
      Php.chain ("$" ++ "table") ((calls column schema).map MethodCall.toCall) := by
  rw [columnStatement, declaration_eq, calls, List.map_append, List.map_cons,
    toCall_modifierCalls]
  rfl

/-- A call can be read when its method and its arguments can. -/
theorem call_wellFormed {method : String} {arguments : List Argument}
    (hmethod : IsBareWord method) (harguments : ∀ argument ∈ arguments, argument.WellFormed) :
    MethodCall.WellFormed { method, arguments } :=
  ⟨hmethod, harguments⟩

/-- A call without arguments can be read when its method can. -/
theorem bareCall_wellFormed {method : String} (hmethod : IsBareWord method) :
    MethodCall.WellFormed { method } :=
  call_wellFormed hmethod fun _ hargument => absurd hargument List.not_mem_nil

/-- A literal can be read before any other arguments that can. -/
theorem text_cons_wellFormed {text : String} {arguments : List Argument}
    (harguments : ∀ argument ∈ arguments, argument.WellFormed) :
    ∀ argument ∈ Argument.text text :: arguments, argument.WellFormed := by
  intro argument hargument
  rcases List.mem_cons.mp hargument with rfl | hargument
  · trivial
  · exact harguments argument hargument

/-- The words of the call that declares a column are bare words. -/
theorem baseCall_wellFormed (column : Column) (schema : Schema) :
    (baseCall column schema).WellFormed := by
  have hname : ∀ argument ∈ [Argument.text column.name], argument.WellFormed :=
    text_cons_wellFormed fun _ hargument => absurd hargument List.not_mem_nil
  unfold baseCall
  split
  · exact call_wellFormed (isBareWord_incrementsMethod column.type) hname
  · split
    · refine call_wellFormed ?_ hname
      split <;> exact isBareWord_fixed _ (by simp)
    · exact call_wellFormed (isBareWord_storageMethod _)
        (text_cons_wellFormed (storageArguments_wellFormed _))

/-- A modifier allows `null`, gives a default, or makes the column unique or the primary key. -/
theorem modifier_cases {column : Column} {call : MethodCall} (hcall : call ∈ modifierCalls column) :
    call = { method := "nullable" } ∨
      (∃ default, call = { method := "default", arguments := [defaultArgument default] }) ∨
      call = { method := "unique" } ∨
      (column.primaryKey = true ∧ column.autoIncrement = false) ∧ call = { method := "primary" } := by
  simp only [modifierCalls, List.mem_append, List.mem_ite_nil_right, List.mem_singleton,
    List.mem_map] at hcall
  rcases hcall with ((⟨-, rfl⟩ | ⟨default, -, rfl⟩) | ⟨-, rfl⟩) | ⟨hkey, rfl⟩
  · exact .inl rfl
  · exact .inr (.inl ⟨default, rfl⟩)
  · exact .inr (.inr (.inl rfl))
  · exact .inr (.inr (.inr ⟨hkey, rfl⟩))

/-- The words of the modifiers are bare words. -/
theorem modifierCalls_wellFormed (column : Column) :
    ∀ call ∈ modifierCalls column, call.WellFormed := by
  intro call hcall
  obtain rfl | ⟨default, rfl⟩ | rfl | ⟨-, rfl⟩ := modifier_cases hcall
  · exact bareCall_wellFormed (isBareWord_fixed _ (by simp))
  · refine call_wellFormed (isBareWord_fixed _ (by simp)) fun argument hargument => ?_
    obtain rfl := List.mem_singleton.mp hargument
    exact defaultArgument_wellFormed default
  · exact bareCall_wellFormed (isBareWord_fixed _ (by simp))
  · exact bareCall_wellFormed (isBareWord_fixed _ (by simp))

/-- The words of a constraint are bare words. -/
theorem referenceCalls_wellFormed (reference : Reference) :
    ∀ call ∈ referenceCalls reference, call.WellFormed := by
  intro call hcall
  simp only [referenceCalls, List.mem_append, List.mem_singleton, List.mem_map] at hcall
  rcases hcall with (rfl | ⟨action, -, rfl⟩) | ⟨action, -, rfl⟩
  · refine call_wellFormed (by decide +kernel) (text_cons_wellFormed fun argument hargument => ?_)
    split at hargument
    · simp at hargument
    · obtain rfl := List.mem_singleton.mp hargument
      trivial
  · exact bareCall_wellFormed (by cases action <;> decide +kernel)
  · exact bareCall_wellFormed (by cases action <;> decide +kernel)

/-- The words of all calls are bare words. -/
theorem calls_wellFormed (column : Column) (schema : Schema) :
    ∀ call ∈ calls column schema, call.WellFormed := by
  intro call hcall
  simp only [calls, List.mem_append, List.mem_cons] at hcall
  rcases hcall with (rfl | hcall) | hcall
  · exact baseCall_wellFormed column schema
  · exact modifierCalls_wellFormed column call hcall
  · simp only [constraint, List.mem_ite_nil_right, List.mem_flatMap] at hcall
    obtain ⟨-, reference, -, hcall⟩ := hcall
    exact referenceCalls_wellFormed reference call hcall

/-- The line that creates a column reads back as its calls. -/
theorem ofText?_columnStatement_eq (column : Column) (schema : Schema) :
    Statement.ofText? (columnStatement column schema) =
      some { receiver := "table", calls := calls column schema } := by
  have htable : ∀ c ∈ "table".toList, Php.isNameChar c = true :=
    List.all_eq_true.mp (by decide +kernel)
  rw [columnStatement_eq, Statement.ofText?_chain htable (calls_wellFormed column schema)]

/-- No storage is declared by the call of a foreign key. -/
theorem storageMethod_ne_foreign (storage : Storage) :
    storage.method ≠ "foreignId" ∧ storage.method ≠ "foreignUuid" := by
  cases storage <;> simp only [Storage.method] <;> decide

/-- No key that counts up is declared by the call of a foreign key. -/
theorem incrementsMethod_ne_foreign (type : Schema.ColumnType) :
    incrementsMethod type ≠ "foreignId" ∧ incrementsMethod type ≠ "foreignUuid" := by
  unfold incrementsMethod
  split <;> decide

/-- The method that declares a column: that of a key that counts up, that of a foreign key, or that
of a storage. -/
theorem baseCall_method_cases (column : Column) (schema : Schema) :
    ((column.primaryKey = true ∧ column.autoIncrement = true) ∧
        (baseCall column schema).method = incrementsMethod column.type) ∨
      (IsForeignKey column schema ∧ ((baseCall column schema).method = "foreignId" ∨
        (baseCall column schema).method = "foreignUuid")) ∨
      (¬(column.primaryKey = true ∧ column.autoIncrement = true) ∧ ¬IsForeignKey column schema ∧
        ∃ storage : Storage, (baseCall column schema).method = storage.method) := by
  by_cases hkey : column.primaryKey = true ∧ column.autoIncrement = true
  · exact .inl ⟨hkey, by rw [baseCall, if_pos hkey]⟩
  · by_cases hforeign : IsForeignKey column schema
    · have hmethod : (baseCall column schema).method =
          if TypeFamily.ofName column.type.name = .uuid then "foreignUuid" else "foreignId" := by
        rw [baseCall, if_neg hkey, if_pos hforeign]
      refine .inr (.inl ⟨hforeign, ?_⟩)
      rw [hmethod]
      split
      · exact .inr rfl
      · exact .inl rfl
    · refine .inr (.inr ⟨hkey, hforeign, ?_⟩)
      exact ⟨_, by rw [baseCall, if_neg hkey, if_neg hforeign]⟩

/-- Exactly the foreign keys are declared by the call of one. -/
theorem baseCall_foreign_iff (column : Column) (schema : Schema) :
    ((baseCall column schema).method = "foreignId" ∨
      (baseCall column schema).method = "foreignUuid") ↔ IsForeignKey column schema := by
  rcases baseCall_method_cases column schema with
    ⟨hkey, hmethod⟩ | ⟨hforeign, hmethod⟩ | ⟨-, hforeign, storage, hmethod⟩
  · have hother := incrementsMethod_ne_foreign column.type
    rw [hmethod, or_iff_right hother.1]
    exact iff_of_false hother.2 fun h => h.1 hkey
  · exact iff_of_true hmethod hforeign
  · have hother := storageMethod_ne_foreign storage
    rw [hmethod, or_iff_right hother.1]
    exact iff_of_false hother.2 hforeign

/-- Exactly the foreign keys have a constraint. -/
theorem constraint_ne_nil_iff (column : Column) (schema : Schema) :
    constraint column schema ≠ [] ↔ IsForeignKey column schema := by
  unfold constraint
  split
  · next hforeign =>
      obtain ⟨reference, others, hreferences⟩ := List.exists_cons_of_ne_nil hforeign.2.2
      exact iff_of_true (by simp [hreferences, referenceCalls]) hforeign
  · next hforeign => exact iff_of_false (by simp) hforeign

/-- The statement that creates a column reads back as exactly one statement on `$table`: the call
that declares the column, its modifiers in their order, and then, if and only if the column was
declared as a foreign key, the constraint with its actions. Every literal is decoded to the text
that it was made from, and no other literal stands in the line. -/
theorem ofText?_columnStatement (column : Column) (schema : Schema) :
    Statement.ofText? (columnStatement column schema) =
        some { receiver := "table"
               calls := baseCall column schema :: modifierCalls column ++
                 constraint column schema } ∧
      (((baseCall column schema).method = "foreignId" ∨
          (baseCall column schema).method = "foreignUuid") ↔
        constraint column schema ≠ []) := by
  refine ⟨ofText?_columnStatement_eq column schema, ?_⟩
  rw [baseCall_foreign_iff, constraint_ne_nil_iff]

-- A key other than the usual one is named in the constraint.
example :
    let owner : Reference :=
      { table := "users", schema := none, column := some "uuid", onDelete := some "cascade",
        onUpdate := none }
    let column : Column :=
      { name := "owner_id", type := { name := "uuid" }, notNull := true, references := [owner] }
    Statement.ofText? (columnStatement column {}) =
      some
        { receiver := "table"
          calls :=
            [{ method := "foreignUuid", arguments := [.text "owner_id"] },
              { method := "constrained", arguments := [.text "users", .text "uuid"] },
              { method := "cascadeOnDelete" }] } := by
  decide +kernel

end SchemaScaffold.Migration
