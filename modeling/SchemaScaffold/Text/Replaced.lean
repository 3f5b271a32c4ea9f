/-!
# Replacing every occurrence

Occurrences of a text are found from left to right and do not overlap; what is put in their place
is not looked at again.
-/

namespace SchemaScaffold.Text

/-- Replace every occurrence of a pattern that starts after the next `skip` characters, which
belong to an occurrence that was already replaced. -/
def replaceFrom (pattern replacement : List Char) : Nat → List Char → List Char
  | _, [] => []
  | skip + 1, _ :: rest => replaceFrom pattern replacement skip rest
  | 0, c :: rest =>
    if pattern.isPrefixOf (c :: rest) then
      replacement ++ replaceFrom pattern replacement (pattern.length - 1) rest
    else c :: replaceFrom pattern replacement 0 rest

/-- The text with every occurrence of a pattern, which must not be empty, replaced. -/
def replaceAll (pattern replacement text : String) : String :=
  String.ofList (replaceFrom pattern.toList replacement.toList 0 text.toList)

example : replaceAll "aa" "b" "aaaca" = "baca" := by decide +kernel

end SchemaScaffold.Text
