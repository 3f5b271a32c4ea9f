import SchemaScaffold.Decimal.Shortest
import SchemaScaffold.Json.Basic
import SchemaScaffold.Text.Separated

/-!
# The compact text of a JSON value

No space stands between tokens. Strings escape only what they must, whole numbers are plain, and
a binary64 value is written with the fewest digits that read back, always with a point or an
exponent so that it stays one.
-/

namespace SchemaScaffold

/-- When and how a binary64 value is written with an exponent. -/
structure BinaryFormat where
  /-- The least exponent of the first digit that is still written without an exponent. -/
  leastPlain : Int
  /-- The greatest such exponent. -/
  greatestPlain : Int
  deriving DecidableEq, Repr

/-- Values from a hundred-thousandth up to, not including, ten to the sixteenth are plain. -/
def JsonNumber.format : BinaryFormat := ⟨-5, 15⟩

/-- Write a positive decimal. The exponent, when there is one, carries its sign. -/
def BinaryFormat.write (format : BinaryFormat) (decimal : Decimal.Digits) : List Char :=
  let digits := decimal.digits
  let exponent := decimal.point - 1
  if format.leastPlain ≤ exponent ∧ exponent ≤ format.greatestPlain then
    if decimal.point ≤ 0 then
      ['0', '.'] ++ List.replicate (-decimal.point).toNat '0' ++ digits
    else
      let whole := decimal.point.toNat
      let fraction := digits.drop whole
      digits.take whole ++ List.replicate (whole - digits.length) '0' ++ ['.'] ++
        (if fraction.isEmpty then ['0'] else fraction)
  else
    let fraction := digits.drop 1
    digits.take 1 ++ (if fraction.isEmpty then [] else '.' :: fraction) ++
      ['e', if exponent < 0 then '-' else '+'] ++ Nat.toDigits 10 exponent.natAbs

/-- The text of a binary64 value. -/
def Binary64.render (value : Binary64) : String :=
  let body :=
    if value.isZero then ['0', '.', '0']
    else JsonNumber.format.write (Decimal.shortest value.magnitude)
  String.ofList (if value.negative then '-' :: body else body)

/-- The text of a number. -/
def JsonNumber.render : JsonNumber → String
  | integer value => toString value
  | binary value => value.render

namespace Json

/-- One character between the quotes of a string. -/
def escapedChar (c : Char) : List Char :=
  if c = '"' ∨ c = '\\' then ['\\', c]
  else if c = '\x08' then ['\\', 'b']
  else if c = '\x0c' then ['\\', 'f']
  else if c = '\n' then ['\\', 'n']
  else if c = '\r' then ['\\', 'r']
  else if c = '\t' then ['\\', 't']
  else if c.toNat < 32 then
    ['\\', 'u', '0', '0', Nat.digitChar (c.toNat / 16), Nat.digitChar (c.toNat % 16)]
  else [c]

/-- The text of a string. -/
def renderString (text : String) : String :=
  String.ofList (['"'] ++ text.toList.flatMap escapedChar ++ ['"'])

mutual

/-- The compact text of a value. -/
def render : Json → String
  | null => "null"
  | bool value => if value then "true" else "false"
  | number value => value.render
  | string text => renderString text
  | array items => "[" ++ Text.joined "," (renderItems items) ++ "]"
  | object entries => "\x7b" ++ Text.joined "," (renderEntries entries) ++ "\x7d"

/-- The texts of the items of an array. -/
def renderItems : List Json → List String
  | [] => []
  | item :: rest => item.render :: renderItems rest

/-- The texts of the entries of an object. -/
def renderEntries : List (String × Json) → List String
  | [] => []
  | (key, value) :: rest => (renderString key ++ ":" ++ value.render) :: renderEntries rest

end

example : (array [number (.integer (-3)), object [("a", string "q\"")]]).render =
    "[-3,\x7b\"a\":\"q\\\"\"\x7d]" := by decide +kernel

end Json

end SchemaScaffold
