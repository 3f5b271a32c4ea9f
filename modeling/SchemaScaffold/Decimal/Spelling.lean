/-!
# How decimal numbers may be spelt

A number may have a sign, digits on either side of a point, and an exponent; digits may be missing
on one side of the point but not on both. Infinity and not-a-number count as spelt numbers too.
-/

namespace SchemaScaffold.Decimal

/-- Drop a sign. -/
def dropSign : List Char → List Char
  | '+' :: rest => rest
  | '-' :: rest => rest
  | text => text

/-- Whether the text is an exponent with at least one digit, or nothing. -/
def isExponent : List Char → Bool
  | [] => true
  | c :: rest =>
    (c == 'e' || c == 'E') && dropSign rest != [] && (dropSign rest).all Char.isDigit

/-- Whether the text, without its sign, is made of digits, a point and an exponent. -/
def isUnsignedNumber (text : List Char) : Bool :=
  let whole := text.takeWhile Char.isDigit
  match text.dropWhile Char.isDigit with
  | '.' :: rest =>
    let fraction := rest.takeWhile Char.isDigit
    (whole != [] || fraction != []) && isExponent (rest.dropWhile Char.isDigit)
  | rest => whole != [] && isExponent rest

/-- The words for values that are no finite numbers, in lower case. -/
def specialWords : List String := ["inf", "infinity", "nan"]

/-- Whether the text spells a number. -/
def isSpelt (text : List Char) : Bool :=
  let body := dropSign text
  isUnsignedNumber body || specialWords.contains (String.ofList (body.map Char.toLower))

end SchemaScaffold.Decimal
