import SchemaScaffold.Json.Basic
import SchemaScaffold.Keyed

/-!
# Reading JSON text

The reader goes through the text once and stops at the first fault, which it reports with its
line and column. Columns count bytes, and a fault at a character includes the first byte of that
character. Arrays and objects may be nested at most 127 deep.
-/

namespace SchemaScaffold.Json

/-- What can be wrong with a text. -/
inductive Reason
  | endInValue
  | endInList
  | endInObject
  | endInString
  | expectedColon
  | expectedListCommaOrEnd
  | expectedObjectCommaOrEnd
  | expectedIdent
  | expectedValue
  | invalidEscape
  | invalidNumber
  | numberOutOfRange
  | loneSurrogate
  | unfinishedPair
  | controlCharacter
  | keyMustBeString
  | trailingComma
  | trailingCharacters
  | nestedTooDeep
  deriving DecidableEq, Repr

/-- The words for a reason. -/
def Reason.message : Reason → String
  | endInValue => "EOF while parsing a value"
  | endInList => "EOF while parsing a list"
  | endInObject => "EOF while parsing an object"
  | endInString => "EOF while parsing a string"
  | expectedColon => "expected `:`"
  | expectedListCommaOrEnd => "expected `,` or `]`"
  | expectedObjectCommaOrEnd => "expected `,` or `\x7d`"
  | expectedIdent => "expected ident"
  | expectedValue => "expected value"
  | invalidEscape => "invalid escape"
  | invalidNumber => "invalid number"
  | numberOutOfRange => "number out of range"
  | loneSurrogate => "lone leading surrogate in hex escape"
  | unfinishedPair => "unexpected end of hex escape"
  | controlCharacter => "control character (\\u0000-\\u001F) found while parsing a string"
  | keyMustBeString => "key must be a string"
  | trailingComma => "trailing comma"
  | trailingCharacters => "trailing characters"
  | nestedTooDeep => "recursion limit exceeded"

/-- A fault: its reason, the text that was left where it was met, and the number of bytes of that
text that still belong to it. -/
structure Fault where
  reason : Reason
  rest : List Char
  reach : Nat

/-- A fault at the next character, or at the end of the text when there is none. -/
def Fault.at (reason : Reason) (rest : List Char) : Fault :=
  ⟨reason, rest, if rest.isEmpty then 0 else 1⟩

/-- A fault that is noticed just before the rest. -/
def Fault.before (reason : Reason) (rest : List Char) : Fault := ⟨reason, rest, 0⟩

/-- The outcome of reading a piece of text: the first fault, or else what was read together with
the text behind it. -/
abbrev Reading := Except Fault

/-- The bytes of a text. -/
def byteSize (text : List Char) : Nat := text.foldr (fun c size => c.utf8Size + size) 0

/-- Line and column after so many bytes of a text. -/
def positionFrom (line column left : Nat) : List Char → Nat × Nat
  | [] => (line, column)
  | c :: rest =>
    if left = 0 then (line, column)
    else if c = '\n' then positionFrom (line + 1) 0 (left - 1) rest
    else if left < c.utf8Size then (line, column + left)
    else positionFrom line (column + c.utf8Size) (left - c.utf8Size) rest

/-- Where a fault lies and what it is. -/
structure SyntaxError where
  reason : Reason
  line : Nat
  column : Nat
  deriving DecidableEq, Repr

/-- The words for a fault, with its place. -/
def SyntaxError.message (error : SyntaxError) : String :=
  error.reason.message ++ " at line " ++ toString error.line ++ " column " ++ toString error.column

/-- The place of a fault in the whole text. -/
def Fault.locate (fault : Fault) (text : List Char) : SyntaxError :=
  let (line, column) := positionFrom 1 0 (byteSize text - byteSize fault.rest + fault.reach) text
  ⟨fault.reason, line, column⟩

/-- Drop white space, of which JSON knows four kinds. -/
def skipSpace (text : List Char) : List Char :=
  text.dropWhile fun c => c == ' ' || c == '\n' || c == '\t' || c == '\r'

/-- Read the rest of a word such as `null`, after its first letter. -/
def readIdent (value : Json) : List Char → List Char → Reading (Json × List Char)
  | [], text => .ok (value, text)
  | _ :: _, [] => .error (.at .endInValue [])
  | expected :: others, c :: rest =>
    if c = expected then readIdent value others rest else .error (.at .expectedIdent (c :: rest))

/-! ## Numbers -/

/-- The value of a decimal digit. -/
def digit? (c : Char) : Option Nat :=
  if c.isDigit then some (c.toNat - '0'.toNat) else none

/-- The greatest whole number that digits are gathered into. -/
def greatestWord : Nat := 0xffffffffffffffff

/-- The greatest exponent that is gathered. -/
def greatestPower : Nat := 0x7fffffff

/-- Gather digits while the number stays within the limit; the number, how many digits were
taken, and the rest. -/
def gather (limit number taken : Nat) : List Char → Nat × Nat × List Char
  | [] => (number, taken, [])
  | c :: rest =>
    match digit? c with
    | some d =>
      if number * 10 + d ≤ limit then gather limit (number * 10 + d) (taken + 1) rest
      else (number, taken, c :: rest)
    | none => (number, taken, c :: rest)

/-- Drop digits; how many there were, and the rest. -/
def skipDigits (text : List Char) : Nat × List Char :=
  ((text.takeWhile Char.isDigit).length, text.dropWhile Char.isDigit)

/-- The number that a sign, gathered digits and a power of ten denote. -/
def fromParts (negative : Bool) (digits : Nat) (power : Int) (rest : List Char) :
    Reading (Json × List Char) :=
  match Binary64.ofDecimal? negative digits power with
  | some value => .ok (number (.binary value), rest)
  | none => .error (.before .numberOutOfRange rest)

/-- Read an exponent, after its letter. An exponent beyond 31 bits stands for a number that is
out of range or, when it is negative or all digits are zero, for zero. -/
def readExponent (negative : Bool) (digits : Nat) (power : Int) (text : List Char) :
    Reading (Json × List Char) :=
  let (down, text) :=
    match text with
    | '+' :: rest => (false, rest)
    | '-' :: rest => (true, rest)
    | _ => (false, text)
  match text with
  | [] => .error (.at .endInValue [])
  | c :: _ =>
    if !c.isDigit then .error (.at .invalidNumber text)
    else
      let (exponent, _, rest) := gather greatestPower 0 0 text
      match rest with
      | d :: after =>
        if d.isDigit then
          if digits ≠ 0 ∧ !down then .error (.before .numberOutOfRange after)
          else .ok (number (.binary (.signedZero negative)), (skipDigits after).2)
        else fromParts negative digits (if down then power - exponent else power + exponent) rest
      | [] => fromParts negative digits (if down then power - exponent else power + exponent) rest

/-- Read the digits after the point. Digits that no longer fit are passed over. -/
def readFraction (negative : Bool) (digits : Nat) (power : Int) (text : List Char) :
    Reading (Json × List Char) :=
  let (digits, taken, rest) := gather greatestWord digits 0 text
  let (dropped, rest) := skipDigits rest
  if taken = 0 ∧ dropped = 0 then
    .error (.at (if rest.isEmpty then .endInValue else .invalidNumber) rest)
  else
    let power := power - taken
    match rest with
    | 'e' :: after | 'E' :: after => readExponent negative digits power after
    | _ => fromParts negative digits power rest

/-- What a whole number without fraction and exponent denotes. Zero with a sign, and negative
numbers beyond 63 bits, are not whole any more. -/
def wholeNumber (negative : Bool) (digits : Nat) : Json :=
  if !negative then number (.integer digits)
  else if digits = 0 ∨ 0x8000000000000000 < digits then
    match Binary64.ofDecimal? true digits 0 with
    | some value => number (.binary value)
    | none => number (.integer (-digits))
  else number (.integer (-digits))

/-- Read a number after its sign. -/
def readNumber (negative : Bool) (text : List Char) : Reading (Json × List Char) :=
  match text with
  | [] => .error (.at .endInValue [])
  | c :: after =>
    if !c.isDigit then .error (.at .invalidNumber text)
    else if c = '0' ∧ after.head?.any Char.isDigit then .error (.at .invalidNumber after)
    else
      let (digits, _, rest) := gather greatestWord 0 0 text
      let (dropped, rest) := skipDigits rest
      match rest with
      | '.' :: after => readFraction negative digits dropped after
      | 'e' :: after | 'E' :: after => readExponent negative digits dropped after
      | _ =>
        if dropped = 0 then .ok (wholeNumber negative digits, rest)
        else fromParts negative digits dropped rest

/-! ## Strings -/

/-- The value of a hexadecimal digit. -/
def hexDigit? (c : Char) : Option Nat :=
  if c.isDigit then some (c.toNat - 48)
  else if 'a' ≤ c ∧ c ≤ 'f' then some (c.toNat - 87)
  else if 'A' ≤ c ∧ c ≤ 'F' then some (c.toNat - 55)
  else none

/-- Read the four digits of a numbered escape. Four bytes must be left, and they are taken
together, so a fault among them shows behind the fourth. -/
def readHex (text : List Char) : Reading (Nat × List Char) :=
  if byteSize (text.take 4) < 4 then .error (.at .endInString [])
  else
    match (text.take 4).mapM hexDigit? with
    | some digits => .ok (digits.foldl (fun code d => code * 16 + d) 0, text.drop 4)
    | none => .error ⟨.invalidEscape, text, 4⟩

/-- Read a numbered escape, after its `u`: one code unit, or a pair of them for a character
beyond the first 65536. -/
def readUnicode (text : List Char) : Reading (Char × List Char) := do
  let (unit, rest) ← readHex text
  if 0xdc00 ≤ unit ∧ unit ≤ 0xdfff then throw (.before .loneSurrogate rest)
  if unit < 0xd800 ∨ 0xdbff < unit then return (Char.ofNat unit, rest)
  match rest with
  | [] => throw (.at .endInString [])
  | '\\' :: [] => throw (.at .endInString [])
  | '\\' :: 'u' :: rest =>
    let (second, rest) ← readHex rest
    if second < 0xdc00 ∨ 0xdfff < second then throw (.before .loneSurrogate rest)
    return (Char.ofNat ((unit - 0xd800) * 1024 + (second - 0xdc00) + 0x10000), rest)
  | '\\' :: other => throw (.at .unfinishedPair other)
  | other => throw (.at .unfinishedPair other)

/-- Read an escape, after its backslash. -/
def readEscape (text : List Char) : Reading (Char × List Char) :=
  match text with
  | [] => .error (.at .endInString [])
  | '"' :: rest => .ok ('"', rest)
  | '\\' :: rest => .ok ('\\', rest)
  | '/' :: rest => .ok ('/', rest)
  | 'b' :: rest => .ok ('\x08', rest)
  | 'f' :: rest => .ok ('\x0c', rest)
  | 'n' :: rest => .ok ('\n', rest)
  | 'r' :: rest => .ok ('\r', rest)
  | 't' :: rest => .ok ('\t', rest)
  | 'u' :: rest => readUnicode rest
  | _ => .error (.at .invalidEscape text)

/-- Read a string after its opening quote, given its characters so far, latest first. The fuel
is a bound on the characters that are left. -/
def readStringFrom : Nat → List Char → List Char → Reading (String × List Char)
  | 0, _, _ => .error (.at .endInString [])
  | fuel + 1, done, text =>
    match text with
    | [] => .error (.at .endInString [])
    | '"' :: rest => .ok (String.ofList done.reverse, rest)
    | '\\' :: rest => do
      let (c, rest) ← readEscape rest
      readStringFrom fuel (c :: done) rest
    | c :: rest =>
      if c.toNat < 32 then .error (.at .controlCharacter text)
      else readStringFrom fuel (c :: done) rest

/-! ## Arrays, objects and values

The size of the whole text, plus one, is more than the characters, items or entries that any part
of it can have, so it is the fuel for all of them.
-/

/-- Read the items of an array up to its end, given the items so far, latest first. -/
def readItems (readItem : List Char → Reading (Json × List Char)) :
    Nat → List Json → List Char → Reading (List Json × List Char)
  | 0, _, _ => .error (.at .endInList [])
  | fuel + 1, done, text => do
    let next (text : List Char) : Reading (List Json × List Char) := do
      let (item, rest) ← readItem text
      readItems readItem fuel (item :: done) rest
    match skipSpace text with
    | [] => throw (.at .endInList [])
    | ']' :: rest => return (done.reverse, rest)
    | c :: rest =>
      if done.isEmpty then next (c :: rest)
      else if c = ',' then
        match skipSpace rest with
        | [] => throw (.at .endInValue [])
        | ']' :: rest => throw (.at .trailingComma (']' :: rest))
        | text => next text
      else throw (.at .expectedListCommaOrEnd (c :: rest))

/-- Read a key, the colon and the value of an entry, from the quote of the key on. -/
def readEntry (readItem : List Char → Reading (Json × List Char)) (fuel : Nat)
    (text : List Char) : Reading (String × Json × List Char) :=
  match text with
  | '"' :: rest => do
    let (key, rest) ← readStringFrom fuel [] rest
    match skipSpace rest with
    | [] => throw (.at .endInObject [])
    | ':' :: rest =>
      let (value, rest) ← readItem rest
      return (key, value, rest)
    | rest => throw (.at .expectedColon rest)
  | _ => .error (.at .keyMustBeString text)

/-- Read the entries of an object up to its end. An entry whose key was met before replaces the
value in the earlier place. -/
def readEntries (readItem : List Char → Reading (Json × List Char)) (size : Nat) :
    Nat → Bool → List (String × Json) → List Char → Reading (List (String × Json) × List Char)
  | 0, _, _, _ => .error (.at .endInObject [])
  | fuel + 1, first, done, text => do
    let next (text : List Char) : Reading (List (String × Json) × List Char) := do
      let (key, value, rest) ← readEntry readItem (size + 1) text
      readEntries readItem size fuel false (Keyed.put key value done) rest
    match skipSpace text with
    | [] => throw (.at .endInObject [])
    | '}' :: rest => return (done, rest)
    | c :: rest =>
      if first then next (c :: rest)
      else if c = ',' then
        match skipSpace rest with
        | [] => throw (.at .endInValue [])
        | '}' :: rest => throw (.at .trailingComma ('}' :: rest))
        | text => next text
      else throw (.at .expectedObjectCommaOrEnd (c :: rest))

/-- Read a value from a text of at most the given size. The number bounds how deep arrays and
objects may still be nested, plus one. -/
def readValue (size : Nat) : Nat → List Char → Reading (Json × List Char)
  | 0, text => .error (.at .nestedTooDeep text)
  | depth + 1, text =>
    match skipSpace text with
    | [] => .error (.at .endInValue [])
    | 'n' :: rest => readIdent null ['u', 'l', 'l'] rest
    | 't' :: rest => readIdent (bool true) ['r', 'u', 'e'] rest
    | 'f' :: rest => readIdent (bool false) ['a', 'l', 's', 'e'] rest
    | '-' :: rest => readNumber true rest
    | '"' :: rest => (readStringFrom (size + 1) [] rest).map fun (text, rest) => (string text, rest)
    | '[' :: rest =>
      if depth = 0 then .error (.at .nestedTooDeep ('[' :: rest))
      else (readItems (readValue size depth) (size + 1) [] rest).map
        fun (items, rest) => (array items, rest)
    | '{' :: rest =>
      if depth = 0 then .error (.at .nestedTooDeep ('{' :: rest))
      else (readEntries (readValue size depth) size (size + 1) true [] rest).map
        fun (entries, rest) => (object entries, rest)
    | c :: rest =>
      if c.isDigit then readNumber false (c :: rest)
      else .error (.at .expectedValue (c :: rest))

/-- Arrays and objects may be nested 127 deep. -/
def depthLimit : Nat := 128

/-- Read a text that holds one value and white space around it. -/
def parse (text : String) : Except SyntaxError Json :=
  let chars := text.toList
  let result := do
    let (value, rest) ← readValue chars.length depthLimit chars
    match skipSpace rest with
    | [] => return value
    | rest => throw (Fault.at .trailingCharacters rest)
  result.mapError (·.locate chars)

end SchemaScaffold.Json
