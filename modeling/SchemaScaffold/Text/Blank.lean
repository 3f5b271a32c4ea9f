import SchemaScaffold.Text.Character

/-!
# White space around texts

Trimming removes white space of any script from the ends of a text and keeps what lies between.
-/

namespace SchemaScaffold.Text

/-- Drop the white space at the start. -/
def trimLeading (chars : List Char) : List Char :=
  chars.dropWhile isBlank

/-- Drop the characters at the end for which the test holds. -/
def dropTrailing (test : Char → Bool) (chars : List Char) : List Char :=
  (chars.reverse.dropWhile test).reverse

/-- Drop the white space at both ends. -/
def trimChars (chars : List Char) : List Char :=
  dropTrailing isBlank (trimLeading chars)

/-- The text without the white space at its ends. -/
def trim (text : String) : String :=
  String.ofList (trimChars text.toList)

/-- Neither end of a trimmed text is blank, and the empty text is trimmed. -/
def Trimmed (chars : List Char) : Prop :=
  (∀ c ∈ chars.head?, isBlank c = false) ∧ (∀ c ∈ chars.getLast?, isBlank c = false)

example : trim "\t a b\u00a0\n" = "a b" := by decide +kernel

end SchemaScaffold.Text
