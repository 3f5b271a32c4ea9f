import SchemaScaffold.Decimal.Binary64

/-!
# JSON values

Numbers keep the form they were read in: whole numbers within 64 bits stay whole, all others are
binary64 values. Objects keep their entries in order; a key stands at most once in an object that
was read, and looking a key up takes the first entry.
-/

namespace SchemaScaffold

/-- A number of JSON. -/
inductive JsonNumber
  | integer (value : Int)
  | binary (value : Binary64)
  deriving DecidableEq, Repr

/-- Zero in any of its forms. -/
def JsonNumber.isZero : JsonNumber → Bool
  | integer value => value == 0
  | binary value => value.isZero

/-- A value of JSON. -/
inductive Json
  | null
  | bool (value : Bool)
  | number (value : JsonNumber)
  | string (value : String)
  | array (items : List Json)
  | object (entries : List (String × Json))
  deriving Repr

namespace Json

instance : Inhabited Json := ⟨null⟩

/-- Whether the value is `null`. -/
def isNull : Json → Bool
  | null => true
  | _ => false

/-- The text of a string. -/
def text? : Json → Option String
  | string value => some value
  | _ => none

/-- The truth value of a boolean. -/
def bool? : Json → Option Bool
  | bool value => some value
  | _ => none

/-- The items of an array. -/
def items? : Json → Option (List Json)
  | array items => some items
  | _ => none

/-- The entries of an object. -/
def entries? : Json → Option (List (String × Json))
  | object entries => some entries
  | _ => none

/-- What stands under a key; values that are no objects have no keys. -/
def get? (value : Json) (key : String) : Option Json :=
  value.entries?.bind (·.lookup key)

end Json

end SchemaScaffold
