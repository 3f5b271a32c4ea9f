/-!
# Endings of texts

Whether a text ends in another one is asked of the characters, so that a text and what stands
before its ending can be put together again.
-/

namespace SchemaScaffold.Text

/-- What stands before an ending, if the text has it. -/
def withoutEnding? (ending text : String) : Option String :=
  let stem := text.toList.take (text.toList.length - ending.toList.length)
  if text.toList = stem ++ ending.toList then some (String.ofList stem) else none

/-- Whether a text ends in another one. Every text ends in itself and in nothing. -/
def hasEnding (ending text : String) : Bool := (withoutEnding? ending text).isSome

/-- Having an ending means to be something followed by it. -/
theorem withoutEnding?_eq_some_iff {ending text stem : String} :
    withoutEnding? ending text = some stem ↔ text = stem ++ ending := by
  constructor
  · intro h
    simp only [withoutEnding?] at h
    split at h
    · next same =>
      obtain rfl := Option.some.inj h
      apply String.toList_injective
      rw [String.toList_append, String.toList_ofList]
      exact same
    · exact absurd h (by simp)
  · rintro rfl
    simp [withoutEnding?, String.toList_append]

/-- A text has an ending exactly if something stands before it. -/
theorem hasEnding_iff {ending text : String} :
    hasEnding ending text = true ↔ ∃ stem, text = stem ++ ending := by
  simp [hasEnding, Option.isSome_iff_exists, withoutEnding?_eq_some_iff]

example : withoutEnding? "_id" "author_id" = some "author" := by decide +kernel

end SchemaScaffold.Text
