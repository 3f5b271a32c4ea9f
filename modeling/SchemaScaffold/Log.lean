/-!
# Log lines

What happens on the way is reported in lines of one form: a level, a message, and named fields.
Each line also knows the area of the program it comes from, so that a filter can ask for some
areas and not for others. How filters are written is not said here. Reporting never changes what is
done.
-/

namespace SchemaScaffold.Log

/-- How important a line is. -/
inductive Level
  | debug
  | info
  | warn
  | error
  deriving DecidableEq, Repr

/-- How deep a level lies: the less important, the deeper. -/
def Level.depth : Level → Nat
  | error => 1
  | warn => 2
  | info => 3
  | debug => 4

/-- The label of a level, five characters wide. -/
def Level.label : Level → String
  | debug => "DEBUG"
  | info => " INFO"
  | warn => " WARN"
  | error => "ERROR"

/-- A line of the log. -/
structure Line where
  level : Level
  area : List String
  message : String
  fields : List (String × String) := []
  deriving DecidableEq, Repr

/-- Characters in a message that a terminal would act on are written as escapes. -/
def shownChar (c : Char) : List Char :=
  if c = '\x1b' then "\\x1b".toList
  else if c = '\x07' then "\\x07".toList
  else if c = '\x08' then "\\x08".toList
  else if c = '\x0c' then "\\x0c".toList
  else if c = '\x7f' then "\\x7f".toList
  else if 0x80 ≤ c.toNat ∧ c.toNat ≤ 0x9f then
    ['\\', 'u', '{'] ++ Nat.toDigits 16 c.toNat ++ ['}']
  else [c]

/-- The text of a message as it is shown. -/
def shown (message : String) : String := String.ofList (message.toList.flatMap shownChar)

/-- The text of a line: the label, the message and the fields. -/
def Line.text (line : Line) : String :=
  line.level.label ++ " " ++ shown line.message ++
    String.join (line.fields.map fun (name, value) => " " ++ name ++ "=" ++ value)

/-- A filter: which lines pass. -/
abbrev Filter := Line → Bool

/-- The filter that lets lines down to a level pass. -/
def Filter.downTo (level : Level) : Filter := fun line => line.level.depth ≤ level.depth

end SchemaScaffold.Log
