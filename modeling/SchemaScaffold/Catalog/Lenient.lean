import SchemaScaffold.Json.Printer
import SchemaScaffold.Text.Casing

/-!
# Lenient scalars and lists

Producers of catalogs disagree on how to write a flag or a list of arguments, so both are read
generously: a flag may be a number or a word, and a list may be one text with commas.
-/

namespace SchemaScaffold.Catalog

/-- A value as a loosely typed producer would print it: texts as they are, nothing for `null`,
and compact JSON for the rest. -/
def scalarText : Json → String
  | .null => ""
  | .string text => text
  | other => other.render

/-- A list of texts: the items of an array or of a text with commas, trimmed and without empty
ones. Any other value but `null` is one item. -/
def textList : Json → List String
  | .null => []
  | .array items => (items.map fun item => Text.trim (scalarText item)).filter (· ≠ "")
  | .string text => Text.commaItems text
  | other => [other.render]

/-- A flag: a boolean, a number other than zero, or a word that says yes. -/
def flag : Json → Bool
  | .bool value => value
  | .number value => !value.isZero
  | .string text => ["true", "1", "yes"].contains (Text.foldAscii text)
  | _ => false

end SchemaScaffold.Catalog
