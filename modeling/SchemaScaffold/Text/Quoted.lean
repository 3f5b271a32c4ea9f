import SchemaScaffold.Text.Character

/-!
# Texts quoted in messages

A message that shows a text puts it between double quotes, with the characters that would not
show, or would end the quotes, written as escapes.
-/

namespace SchemaScaffold.Text

/-- A number in lower-case hexadecimal digits, without leading zeros. -/
def hexDigits (n : Nat) : List Char := Nat.toDigits 16 n

/-- One character between the quotes. Marks that would merge with the character before them, and
characters that do not print, are shown by their code point. -/
def quotedChar (c : Char) : List Char :=
  if c = '\x00' then ['\\', '0']
  else if c = '\t' then ['\\', 't']
  else if c = '\r' then ['\\', 'r']
  else if c = '\n' then ['\\', 'n']
  else if c = '\\' ∨ c = '"' then ['\\', c]
  else if isExtending c || !isPrintable c then
    ['\\', 'u', '{'] ++ hexDigits c.toNat ++ ['}']
  else [c]

/-- The text between double quotes. -/
def quoted (text : String) : String :=
  String.ofList (['"'] ++ text.toList.flatMap quotedChar ++ ['"'])

end SchemaScaffold.Text
