import SchemaScaffold.Catalog.Lenient
import SchemaScaffold.Decimal.Spelling
import SchemaScaffold.Php.Literal
import SchemaScaffold.Schema.Basic
import SchemaScaffold.Text.Blank

/-!
# Default values as PHP expressions

Scalars keep their value and SQL expressions are passed through raw. A producer that writes every
default as a text still tags booleans and numbers, so a tagged text that spells such a value is
written without quotes. Everything else is quoted.
-/

namespace SchemaScaffold.Schema.DefaultValue

/-- A text default, with the kind that it is tagged with. -/
def textExpression (text : String) (kind : Option String) : String :=
  let trimmed := Text.trim text
  if kind = some "boolean" then
    let word := Text.toLower trimmed
    if word = "true" ∨ word = "false" ∨ word = "null" then word else Php.literal text
  else if kind = some "number" ∧ Decimal.isSpelt trimmed.toList then trimmed
  else Php.literal text

/-- The expression of a default value. -/
def expression (default : DefaultValue) : String :=
  match default.value with
  | .null => "null"
  | value =>
    if default.isExpression then "DB::raw(" ++ Php.literal (Catalog.scalarText value) ++ ")"
    else
      match value with
      | .string text => textExpression text default.kind
      | .array items => Php.literal (Json.array items).render
      | .object entries => Php.literal (Json.object entries).render
      | scalar => scalar.render

end SchemaScaffold.Schema.DefaultValue
