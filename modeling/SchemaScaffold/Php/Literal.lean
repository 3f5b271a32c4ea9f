import SchemaScaffold.Text.Separated

/-!
# PHP literals

Texts go into generated code between single quotes. There a backslash escapes a quote or another
backslash and stands for itself before anything else, so escaping exactly these two characters
keeps every text intact.
-/

namespace SchemaScaffold.Php

/-- One character between single quotes. -/
def escapedChar (c : Char) : List Char :=
  if c = '\\' ∨ c = '\'' then ['\\', c] else [c]

/-- The characters of a literal. -/
def literalChars (text : List Char) : List Char :=
  '\'' :: (text.flatMap escapedChar ++ ['\''])

/-- A text as a literal. -/
def literal (text : String) : String := String.ofList (literalChars text.toList)

/-- Texts as an array of literals. -/
def listLiteral (texts : List String) : String :=
  "[" ++ Text.joined ", " (texts.map literal) ++ "]"

example : literal "it's a\\b" = "'it\\'s a\\\\b'" := by decide

end SchemaScaffold.Php
