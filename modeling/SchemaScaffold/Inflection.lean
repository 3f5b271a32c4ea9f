import SchemaScaffold.Inflection.Rule
import SchemaScaffold.Inflection.Vocabulary
import SchemaScaffold.Text.Casing
import SchemaScaffold.Text.Replaced

/-!
# Singular and plural

English inflection as far as table and class names need it: irregular words first, then words
without a plural, then the rules. What comes out follows the case of what went in. The result is
a guess by form only, so a word that is already in the wanted number may still be changed.
-/

namespace SchemaScaffold.Inflection

/-- Give a piece of text the case of a word: all small, all capital, or as it stands when the word
merely starts with a capital. -/
def likeWord (word piece : String) : String :=
  if piece = word then piece
  else if Text.toLower word = word then Text.toLower piece
  else if Text.toUpper word = word then Text.toUpper piece
  else if word.toList.head?.any Text.isUppercase then piece
  else Text.toLower piece

/-- Put the remembered stretches in the places of `$0`, `$1` and so on, one number after another. -/
def fillCaptures (text : String) : Nat → List String → String
  | _, [] => text
  | number, stretch :: rest =>
    fillCaptures (Text.replaceAll ("$" ++ toString number) stretch text) (number + 1) rest

/-- Drop every dollar sign together with the character after it. -/
def dropReferences : List Char → List Char
  | '$' :: _ :: rest => dropReferences rest
  | c :: rest => c :: dropReferences rest
  | [] => []

/-- The word after the rule, or nothing when the rule does not fit. -/
def Rule.result? (rule : Rule) (word : String) : Option String :=
  (rule.pattern.search word.toList).map fun hit =>
    let stretches :=
      (hit.matched :: hit.captures).map fun chars => likeWord word (String.ofList chars)
    let filled := fillCaptures (likeWord word rule.replacement) 0 stretches
    String.ofList (dropReferences (hit.before ++ filled.toList ++ hit.after))

/-- The last of the rules that fits, applied; a word that none fits stays as it is. -/
def applyRules (rules : List Rule) (word : String) : String :=
  (rules.reverse.findSome? (·.result? word)).getD word

/-- Inflect a word: `kept` are the irregular words that already have the wanted number, and
`replaced` leads from the other number to the wanted one, later entries first. -/
def inflect (kept : List String) (replaced : List (String × String)) (rules : List Rule)
    (word : String) : String :=
  let small := Text.toLower word
  if kept.contains small then likeWord word small
  else
    match replaced.reverse.lookup small with
    | some other => likeWord word other
    | none => if small = "" ∨ small ∈ uncountable then word else applyRules rules word

/-- The singular of a word. -/
def singular : String → String :=
  inflect (irregular.map (·.1)) (irregular.map fun (one, many) => (many, one)) singularRules

/-- The plural of a word. -/
def plural : String → String :=
  inflect (irregular.map (·.2)) irregular pluralRules

example : plural "category" = "categories" ∧ singular "PEOPLE" = "PERSON" := by decide +kernel

end SchemaScaffold.Inflection
