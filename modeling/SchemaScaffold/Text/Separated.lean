import SchemaScaffold.Text.Blank

/-!
# Texts cut at separators

Cutting at every separator gives one piece more than there are separators, so empty pieces stand
for separators at the ends or next to each other. A list written with commas is read more
leniently: its items are trimmed and empty ones are dropped.
-/

namespace SchemaScaffold.Text

/-- Cut before and after every character for which the test holds, and drop those characters. -/
def pieces (cut : Char → Bool) : List Char → List (List Char)
  | [] => [[]]
  | c :: rest =>
    if cut c then [] :: pieces cut rest
    else
      match pieces cut rest with
      | [] => [[c]]
      | piece :: others => (c :: piece) :: others

/-- The text before the first separator and the text after it. -/
def cutOnce (separator : Char) : List Char → Option (List Char × List Char)
  | [] => none
  | c :: rest =>
    if c = separator then some ([], rest)
    else (cutOnce separator rest).map fun (head, tail) => (c :: head, tail)

/-- The items of a list written with commas: trimmed, and without the empty ones. -/
def commaItems (text : String) : List String :=
  (((pieces (· = ',') text.toList).map trimChars).filter (· ≠ [])).map String.ofList

/-- Texts put one after another with a separator between them. -/
def joined (separator : String) : List String → String
  | [] => ""
  | [text] => text
  | text :: rest => text ++ separator ++ joined separator rest

/-- There is always at least one piece. -/
theorem pieces_ne_nil (cut : Char → Bool) (chars : List Char) : pieces cut chars ≠ [] := by
  cases chars with
  | nil => simp [pieces]
  | cons c rest =>
    simp only [pieces]
    split
    · simp
    · split <;> simp

example : commaItems " a, ,b c ,," = ["a", "b c"] := by decide +kernel

end SchemaScaffold.Text
