import SchemaScaffold.Catalog.OfExport

/-!
# What is read from an export

Reading an export goes through its schemas one after another and appends what each declares. So the
catalog holds, in the order of the schemas, the tables, enumerations and refs of all of them, each
read by itself with the name of the schema around it.
-/

namespace SchemaScaffold.Catalog.Export

/-- The tables of several schemas, in their order. -/
def tablesOf (schemas : List Json) : List Table :=
  schemas.flatMap fun schema => (list schema "tables").map (table (text? schema "name"))

/-- The enumerations of several schemas, in their order. -/
def enumerationsOf (schemas : List Json) : List Enumeration :=
  schemas.flatMap fun schema => (list schema "enums").map (enumeration (text? schema "name"))

/-- The refs of several schemas, in their order. -/
def refsOf (schemas : List Json) : List Ref :=
  schemas.flatMap fun schema => (list schema "refs").map (ref (text? schema "name"))

/-- Several schemas are read by appending what all of them declare. -/
theorem foldl_addSchema (schemas : List Json) (catalog : Catalog) :
    schemas.foldl addSchema catalog =
      { tables := catalog.tables ++ tablesOf schemas
        enums := catalog.enums ++ enumerationsOf schemas
        refs := catalog.refs ++ refsOf schemas } := by
  induction schemas generalizing catalog with
  | nil => simp only [List.foldl_nil, tablesOf, enumerationsOf, refsOf, List.flatMap_nil,
      List.append_nil]
  | cons schema rest ih =>
      simp only [List.foldl_cons, ih, addSchema, tablesOf, enumerationsOf, refsOf,
        List.flatMap_cons, List.append_assoc]

/-- The catalog that several schemas declare. -/
def catalogOf (schemas : List Json) : Catalog where
  tables := tablesOf schemas
  enums := enumerationsOf schemas
  refs := refsOf schemas

/-- An export is rejected when it is no object or has no list of schemas, and otherwise it is read
as the catalog that these declare. -/
theorem ofExport_eq (database : Json) :
    ofExport database =
      if database.entries?.isNone then .error .notAnObject
      else match (database.get? "schemas").bind Json.items? with
        | none => .error .missingSchemas
        | some schemas => .ok (catalogOf schemas) := by
  rw [ofExport, Json.get?]
  cases database.entries? with
  | none => rfl
  | some entries =>
      have hfold (schemas : List Json) : schemas.foldl addSchema {} = catalogOf schemas :=
        foldl_addSchema schemas {}
      simp only [hfold]
      rfl

/-- The catalog read from an export holds what its schemas declare. -/
theorem eq_of_ofExport {database : Json} {catalog : Catalog}
    (hread : ofExport database = .ok catalog) :
    catalog =
      { tables := tablesOf (list database "schemas")
        enums := enumerationsOf (list database "schemas")
        refs := refsOf (list database "schemas") } := by
  rw [ofExport_eq] at hread
  split at hread
  case isTrue => cases hread
  case isFalse =>
    rw [list]
    cases hschemas : (database.get? "schemas").bind Json.items? with
    | none =>
        rw [hschemas] at hread
        cases hread
    | some schemas =>
        rw [hschemas] at hread
        cases hread
        rfl

end SchemaScaffold.Catalog.Export
