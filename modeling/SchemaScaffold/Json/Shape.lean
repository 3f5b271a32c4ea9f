import SchemaScaffold.Json.Printer
import SchemaScaffold.Text.Quoted

/-!
# Reading records out of JSON values

A record is an object whose entries are read in the order they stand in, each by the field of its
key; entries under other keys are passed over, and fields without an entry keep the value of a
blank record. A record may also be written as an array of its fields in their own order, where
fields may be missing at the end. The first entry that does not fit is reported.
-/

namespace SchemaScaffold.Json

/-- A value as messages name it: scalars with their value, arrays and objects by their kind. -/
inductive Found
  | null
  | bool (value : Bool)
  | number (value : JsonNumber)
  | string (value : String)
  | sequence
  | map
  deriving DecidableEq, Repr

/-- The name of a value. -/
def found : Json → Found
  | null => .null
  | bool value => .bool value
  | number value => .number value
  | string value => .string value
  | array _ => .sequence
  | object _ => .map

/-- The words for a value. -/
def Found.message : Found → String
  | null => "null"
  | bool value => "boolean `" ++ (if value then "true" else "false") ++ "`"
  | number (.integer value) => "integer `" ++ toString value ++ "`"
  | number (.binary value) => "floating point `" ++ value.render ++ "`"
  | string value => "string " ++ Text.quoted value
  | sequence => "sequence"
  | map => "map"

/-- What a place in a record may hold. -/
inductive Expected
  | text
  | sequence
  | record (label : String)
  deriving DecidableEq, Repr

/-- The words for what is expected. -/
def Expected.message : Expected → String
  | text => "a string"
  | sequence => "a sequence"
  | record label => "struct " ++ label

/-- Why a value is not of the shape that its place asks for. -/
inductive ShapeError
  /-- The value is of another kind. -/
  | mismatch (found : Found) (expected : Expected)
  /-- An array that stands for a record has more items than the record has fields. -/
  | tooManyItems (count : Nat)
  /-- The value is of none of the kinds that the named choice allows. -/
  | noVariant (choice : String)
  deriving DecidableEq, Repr

/-- The words for a shape error. -/
def ShapeError.message : ShapeError → String
  | mismatch found expected =>
    "invalid type: " ++ found.message ++ ", expected " ++ expected.message
  | tooManyItems count =>
    "invalid length " ++ toString count ++ ", expected fewer elements in array"
  | noVariant choice => "data did not match any variant of untagged enum " ++ choice

/-- What was read, or the first thing that did not fit. -/
abbrev Shaped := Except ShapeError

/-- Read a text. -/
def readText : Json → Shaped String
  | string value => .ok value
  | other => .error (.mismatch other.found .text)

/-- Read `null` as nothing and anything else as a value. -/
def readOptional {α : Type} (read : Json → Shaped α) : Json → Shaped (Option α)
  | null => .ok none
  | other => (read other).map some

/-- Read every item of an array. -/
def readList {α : Type} (read : Json → Shaped α) : Json → Shaped (List α)
  | array items => items.mapM read
  | other => .error (.mismatch other.found .sequence)

/-- A field of a record: its key, and how what stands there changes the record. -/
structure RecordField (σ : Type) where
  key : String
  read : Json → σ → Shaped σ

/-- A field that is read by itself and then stored. -/
def RecordField.of {σ α : Type} (key : String) (read : Json → Shaped α) (store : α → σ → σ) :
    RecordField σ :=
  ⟨key, fun value record => (read value).map (store · record)⟩

/-- Read the entries of an object into a record. -/
def readByKey {σ : Type} (fields : List (RecordField σ)) (blank : σ)
    (entries : List (String × Json)) :
    Shaped σ :=
  entries.foldlM (fun record (key, value) =>
    match fields.find? (·.key == key) with
    | some field => field.read value record
    | none => .ok record) blank

/-- Read the items of an array into the fields of a record, in their order. -/
def readInOrder {σ : Type} (fields : List (RecordField σ)) (blank : σ) (items : List Json) :
    Shaped σ :=
  (fields.zip items).foldlM (fun record (field, value) => field.read value record) blank

/-- Read a record with a name for messages. -/
def readRecord {σ : Type} (label : String) (fields : List (RecordField σ)) (blank : σ) :
    Json → Shaped σ
  | object entries => readByKey fields blank entries
  | array items => do
    let record ← readInOrder fields blank items
    if fields.length < items.length then throw (.tooManyItems items.length)
    return record
  | other => .error (.mismatch other.found (.record label))

end SchemaScaffold.Json
