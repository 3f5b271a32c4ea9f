import SchemaScaffold.Text.Property.Alphanumeric
import SchemaScaffold.Text.Property.CaseMap
import SchemaScaffold.Text.Property.Cased
import SchemaScaffold.Text.Property.Lowercase
import SchemaScaffold.Text.Property.Printable
import SchemaScaffold.Text.Property.Uppercase
import SchemaScaffold.Text.Property.Word

/-!
# Properties and case maps of characters

Names in a database schema may be written in any script, so the classes used here are those of
the Unicode standard and not the ASCII ones. The first 128 characters are decided directly; only
the others consult a table.
-/

namespace SchemaScaffold.Text

/-- Decide the first 128 characters by a rule and the others by a table. -/
def classify (plain : Char → Bool) (table : CodeSet) (c : Char) : Bool :=
  if c.toNat < 128 then plain c else table.contains c.toNat

/-- Letters and numbers of any script. -/
def isAlphanumeric : Char → Bool := classify Char.isAlphanum Property.alphanumeric

/-- Lower-case characters. -/
def isLowercase : Char → Bool := classify Char.isLower Property.lowercase

/-- Upper-case characters. A title-case letter is neither lower nor upper case. -/
def isUppercase : Char → Bool := classify Char.isUpper Property.uppercase

/-- Characters that have case: lower, upper or title. -/
def isCased : Char → Bool := classify Char.isAlpha Property.cased

/-- Characters which the final-sigma rule passes over. -/
def isCaseIgnorable : Char → Bool :=
  classify (fun c => c ∈ ['\'', '.', ':', '^', '`']) Property.caseIgnorable

/-- Characters that count as part of a word at a word boundary. -/
def isWordChar : Char → Bool := classify (fun c => c.isAlphanum || c == '_') Property.word

/-- Characters that merge with the one before them. -/
def isExtending : Char → Bool := classify (fun _ => false) Property.graphemeExtending

/-- Characters that a quoted text shows as they are. -/
def isPrintable (c : Char) : Bool :=
  !classify (fun c => decide (c.toNat < 32) || c.toNat == 127) Property.unprintable c

/-- White space of any kind: the ASCII controls tab to carriage return, the blank, and the
separators of the standard. -/
def isBlank (c : Char) : Bool :=
  let n := c.toNat
  (9 ≤ n && n ≤ 13) || n == 0x20 || n == 0x85 || n == 0xa0 || n == 0x1680 ||
    (0x2000 ≤ n && n ≤ 0x200a) || n == 0x2028 || n == 0x2029 || n == 0x202f || n == 0x205f ||
    n == 0x3000

/-- The image of a character beyond the first 128 under a case map; a character that no entry
mentions is its own image. -/
def mapCase (runs : List Property.CaseRun) (expansions : List (Nat × List Nat)) (c : Char) :
    List Char :=
  match expansions.lookup c.toNat with
  | some codes => codes.map Char.ofNat
  | none =>
    match runs.findSome? (·.image? c.toNat) with
    | some code => [Char.ofNat code]
    | none => [c]

/-- The lower-case form of one character, taken by itself. -/
def lowerChar (c : Char) : List Char :=
  if c.toNat < 128 then [c.toLower]
  else mapCase Property.lowerRuns Property.lowerExpansions c

/-- The upper-case form of one character; the sharp s, for one, becomes two letters. -/
def upperChar (c : Char) : List Char :=
  if c.toNat < 128 then [c.toUpper]
  else mapCase Property.upperRuns Property.upperExpansions c

end SchemaScaffold.Text
