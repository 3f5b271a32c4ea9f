import SchemaScaffold.Text.Character

/-!
# Upper and lower case of texts

Whole texts are changed character by character, with one exception that looks around: a capital
sigma at the end of a word becomes the final small sigma. ASCII case folding is kept apart,
since some comparisons here ignore the case of ASCII letters only.
-/

namespace SchemaScaffold.Text

/-- Whether the nearest character that is not passed over has case. -/
def metCased (chars : List Char) : Bool :=
  match chars.dropWhile isCaseIgnorable with
  | c :: _ => isCased c
  | [] => false

/-- The lower-case sigma between what stands before it, nearest first, and what follows it:
final exactly when a word ends here. -/
def lowerSigma (before after : List Char) : Char :=
  if metCased before && !metCased after then 'ς' else 'σ'

/-- Lower-case the characters, given the ones already passed, nearest first. -/
def lowerFrom (before : List Char) : List Char → List Char
  | [] => []
  | c :: after =>
    (if c = 'Σ' then [lowerSigma before after] else lowerChar c) ++ lowerFrom (c :: before) after

/-- The lower-case form of a text. -/
def toLower (text : String) : String :=
  String.ofList (lowerFrom [] text.toList)

/-- The upper-case form of a text. -/
def toUpper (text : String) : String :=
  String.ofList (text.toList.flatMap upperChar)

/-- The text with its ASCII capitals made small and all else kept. -/
def foldAscii (text : String) : String :=
  String.ofList (text.toList.map Char.toLower)

/-- Equality of texts that ignores the case of ASCII letters. -/
def eqIgnoringAsciiCase (a b : String) : Bool :=
  a.toList.map Char.toLower == b.toList.map Char.toLower

example : toLower "ΟΔΟΣ ΣΑΣ" = "οδος σας" := by decide +kernel
example : toUpper "straße" = "STRASSE" := by decide +kernel

end SchemaScaffold.Text
