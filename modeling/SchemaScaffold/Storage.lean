import SchemaScaffold.Php.Call
import SchemaScaffold.Php.Literal
import SchemaScaffold.Schema.Basic
import SchemaScaffold.Text.Blank

/-!
# How columns are stored and read

A declared type is sorted into a family by its base name. The family decides the directive that
creates the column, the directive for a key that counts up, and the cast that a model applies when
it reads the column. Names that no family knows are stored as strings.
-/

namespace SchemaScaffold

open Schema (ColumnType Enumeration)

/-- Families of declared types. -/
inductive TypeFamily
  | integer
  | bigInteger
  | smallInteger
  | tinyInteger
  | mediumInteger
  | text
  | mediumText
  | longText
  | boolean
  | timestamp
  | decimal
  | json
  | enum
  | uuid
  | char
  | varchar
  | date
  | time
  | double
  | float
  | morphs
  | unknown
  deriving DecidableEq, Repr

namespace TypeFamily

/-- The names of the known types, in lower case. -/
def names : List (String × TypeFamily) :=
  [("int", integer), ("integer", integer), ("int4", integer), ("serial", integer),
   ("bigint", bigInteger), ("int8", bigInteger), ("bigserial", bigInteger),
   ("smallint", smallInteger), ("int2", smallInteger),
   ("tinyint", tinyInteger),
   ("mediumint", mediumInteger),
   ("text", text),
   ("mediumtext", mediumText),
   ("longtext", longText),
   ("bool", boolean), ("boolean", boolean),
   ("timestamp", timestamp), ("datetime", timestamp), ("timestamptz", timestamp),
   ("decimal", decimal), ("numeric", decimal),
   ("json", json), ("jsonb", json),
   ("enum", enum),
   ("uuid", uuid),
   ("char", char), ("character", char),
   ("varchar", varchar), ("string", varchar), ("character varying", varchar),
   ("date", date),
   ("time", time),
   ("double", double), ("double precision", double),
   ("float", float), ("real", float),
   ("morph", morphs), ("morphs", morphs)]

/-- The base name of a declared type: what stands before a parenthesis, in lower case. -/
def baseName (name : String) : String :=
  String.ofList (Text.trimChars ((Text.toLower name).toList.takeWhile (· ≠ '(')))

/-- The family of a declared type. -/
def ofName (name : String) : TypeFamily :=
  (names.lookup (baseName name)).getD unknown

end TypeFamily

/-! ## Arguments of a type -/

/-- The argument at a position. -/
def Schema.ColumnType.arg? (type : ColumnType) (position : Nat) : Option String :=
  type.args[position]?

/-- Read a whole number: digits with an optional sign, white space around them ignored. Numbers
beyond 63 bits and a sign are not read. -/
def wholeNumber? (text : String) : Option Int :=
  let read (negative : Bool) (digits : List Char) : Option Int :=
    if digits ≠ [] ∧ digits.all Char.isDigit then
      let magnitude := digits.foldl (fun n c => n * 10 + (c.toNat - '0'.toNat)) 0
      let value : Int := if negative then -magnitude else magnitude
      if -0x8000000000000000 ≤ value ∧ value ≤ 0x7fffffffffffffff then some value else none
    else none
  match Text.trimChars text.toList with
  | '-' :: digits => read true digits
  | '+' :: digits => read false digits
  | digits => read false digits

/-- The greatest number that an argument may stand for. -/
def greatestArgument : Nat := 0xffffffff

/-- The number at a position, moved into the range that starts at `least`; the fallback when there
is none. -/
def numericArgument (type : ColumnType) (position fallback least : Nat) : Nat :=
  match (type.arg? position).bind wholeNumber? with
  | some number => (max (least : Int) (min number greatestArgument)).toNat
  | none => fallback

/-- The length of a string column when none is given. -/
def defaultLength : Nat := 255

/-- The number of digits of a decimal column when none is given. -/
def defaultPrecision : Nat := 8

/-- The number of digits behind the point when none is given. -/
def defaultScale : Nat := 2

/-- The length of a string column. -/
def lengthOf (type : ColumnType) : Nat := numericArgument type 0 defaultLength 1

/-- The number of digits of a decimal column. -/
def precisionOf (type : ColumnType) : Nat := numericArgument type 0 defaultPrecision 1

/-- The number of digits behind the point of a decimal column. -/
def scaleOf (type : ColumnType) : Nat := numericArgument type 1 defaultScale 0

/-! ## Storage -/

/-- How a column is stored. -/
inductive Storage
  | integer
  | bigInteger
  | smallInteger
  | tinyInteger
  | mediumInteger
  | text
  | mediumText
  | longText
  | boolean
  | timestamp
  | decimal (precision scale : Nat)
  | json
  | enum (values : List String)
  | uuid
  | char (length : Nat)
  | string (length : Nat)
  | date
  | time
  | double
  | float
  | morphs
  deriving DecidableEq, Repr

namespace Storage

/-- The storage of a type. An enumeration that the type stands for goes before all else. -/
def ofType (type : ColumnType) (enumeration : Option Enumeration) : Storage :=
  match enumeration with
  | some enumeration => enum enumeration.values
  | none =>
    match TypeFamily.ofName type.name with
    | .integer => integer
    | .bigInteger => bigInteger
    | .smallInteger => smallInteger
    | .tinyInteger => tinyInteger
    | .mediumInteger => mediumInteger
    | .text => text
    | .mediumText => mediumText
    | .longText => longText
    | .boolean => boolean
    | .timestamp => timestamp
    | .decimal => decimal (precisionOf type) (scaleOf type)
    | .json => json
    | .enum => enum type.args
    | .uuid => uuid
    | .char => char (lengthOf type)
    | .date => date
    | .time => time
    | .double => double
    | .float => float
    | .morphs => morphs
    | .varchar | .unknown => string (lengthOf type)

/-- The method that creates the column. -/
def method : Storage → String
  | integer => "integer"
  | bigInteger => "bigInteger"
  | smallInteger => "smallInteger"
  | tinyInteger => "tinyInteger"
  | mediumInteger => "mediumInteger"
  | text => "text"
  | mediumText => "mediumText"
  | longText => "longText"
  | boolean => "boolean"
  | timestamp => "timestamp"
  | decimal _ _ => "decimal"
  | json => "json"
  | enum _ => "enum"
  | uuid => "uuid"
  | char _ => "char"
  | string _ => "string"
  | date => "date"
  | time => "time"
  | double => "double"
  | float => "float"
  | morphs => "morphs"

/-- The arguments of the method behind the name of the column. A usual length is left out. -/
def arguments : Storage → List String
  | decimal precision scale => [toString precision, toString scale]
  | char length | string length => if length = defaultLength then [] else [toString length]
  | enum values => [Php.listLiteral values]
  | _ => []

/-- The call that creates a column of this name. -/
def directive (storage : Storage) (column : String) : Php.Call where
  method := storage.method
  arguments := Text.joined ", " (Php.literal column :: storage.arguments)

end Storage

/-- The method that creates a key which counts up, by the size of its type. -/
def incrementsMethod (type : ColumnType) : String :=
  match TypeFamily.ofName type.name with
  | .bigInteger => "bigIncrements"
  | .smallInteger => "smallIncrements"
  | .tinyInteger => "tinyIncrements"
  | .mediumInteger => "mediumIncrements"
  | _ => "increments"

/-! ## Casts -/

/-- How a model converts a column when it reads it. -/
inductive Cast
  | boolean
  | float
  | array
  | dateTime
  | date
  | integer
  | decimal (scale : Nat)
  deriving DecidableEq, Repr

namespace Cast

/-- The cast of a type, if it needs one. A decimal keeps its digits when it says how many stand
behind the point. -/
def ofType? (type : ColumnType) : Option Cast :=
  match TypeFamily.ofName type.name with
  | .boolean => some boolean
  | .decimal => some (if (type.arg? 1).isSome then decimal (scaleOf type) else float)
  | .float | .double => some float
  | .json => some array
  | .timestamp => some dateTime
  | .date => some date
  | .integer | .bigInteger | .smallInteger | .tinyInteger | .mediumInteger => some integer
  | _ => none

/-- The name of the cast. -/
def name : Cast → String
  | boolean => "boolean"
  | float => "float"
  | array => "array"
  | dateTime => "datetime"
  | date => "date"
  | integer => "integer"
  | decimal scale => "decimal:" ++ toString scale

/-- Casts that the framework applies by itself. -/
def isTrivial : Cast → Bool
  | integer => true
  | _ => false

end Cast

/-! ## Referential actions -/

/-- What happens to a row when the row that it points to is deleted or changed. -/
inductive ReferentialAction
  | cascade
  | restrict
  | setNull
  deriving DecidableEq, Repr

namespace ReferentialAction

/-- Read an action. Actions that need no call are none of these. -/
def ofText? (text : String) : Option ReferentialAction :=
  match Text.toLower (Text.trim text) with
  | "cascade" => some cascade
  | "restrict" => some restrict
  | "set null" => some setNull
  | _ => none

/-- The method of a constraint that asks for the action. -/
def onDelete : ReferentialAction → String
  | cascade => "cascadeOnDelete"
  | restrict => "restrictOnDelete"
  | setNull => "nullOnDelete"

/-- The method of a constraint that asks for the action on changes. -/
def onUpdate : ReferentialAction → String
  | cascade => "cascadeOnUpdate"
  | restrict => "restrictOnUpdate"
  | setNull => "nullOnUpdate"

end ReferentialAction

end SchemaScaffold
