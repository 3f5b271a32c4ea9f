import SchemaScaffold.Catalog.OfExport
import SchemaScaffold.Catalog.OfJson
import SchemaScaffold.Json.Reader

/-!
# Catalogs read from text

What a parser prints is JSON. A key `schemas` at the top marks a database export; otherwise a key
`tables` marks a catalog in its own form.
-/

namespace SchemaScaffold.Catalog

/-- Why a text holds no catalog. -/
inductive ReadError
  | malformed (error : Json.SyntaxError)
  | misshapen (error : Json.ShapeError)
  | noExport (error : ExportError)
  | unrecognized
  deriving DecidableEq, Repr

/-- The words for a read error. -/
def ReadError.message : ReadError → String
  | malformed error => "parser output is not valid JSON: " ++ error.message
  | misshapen error => "parser output is not valid JSON: " ++ error.message
  | noExport error => "unexpected parser output: " ++ error.message
  | unrecognized =>
    "unexpected parser output: expected `schemas` or `tables` at the top level"

/-- Read a catalog in either form out of a value. -/
def ofValue (value : Json) : Except ReadError Catalog :=
  match value.entries? with
  | none => .error (.noExport .notAnObject)
  | some entries =>
    if (entries.lookup "schemas").isSome then (ofExport value).mapError .noExport
    else if (entries.lookup "tables").isSome then (ofJson value).mapError .misshapen
    else .error .unrecognized

/-- Read a catalog out of a text. -/
def ofText (text : String) : Except ReadError Catalog :=
  match Json.parse text with
  | .error error => .error (.malformed error)
  | .ok value => ofValue value

end SchemaScaffold.Catalog
