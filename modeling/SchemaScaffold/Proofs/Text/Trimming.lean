import SchemaScaffold.Text.Separated

/-!
# Trimmed texts

Trimming leaves a trimmed text, and a trimmed text stays as it is. The items of a list that was
read leniently are such texts, and none of them is empty; so reading them as a list once more
changes nothing.
-/

namespace SchemaScaffold.Text

/-- Nothing is dropped from the start when the first character fails the test. -/
theorem dropWhile_of_head {test : Char → Bool} {chars : List Char}
    (hhead : ∀ c ∈ chars.head?, test c = false) : chars.dropWhile test = chars := by
  cases chars with
  | nil => rfl
  | cons c rest => exact List.dropWhile_cons_of_neg (Bool.not_eq_true _ ▸ hhead c rfl)

/-- After dropping from the start the first character fails the test. -/
theorem head?_dropWhile {test : Char → Bool} (chars : List Char) :
    ∀ c ∈ (chars.dropWhile test).head?, test c = false := by
  intro c hc
  have hhead := List.head?_dropWhile_not test chars
  rw [Option.mem_def.mp hc] at hhead
  simpa using hhead

/-- What remains when the end is dropped is a start of the text. -/
theorem dropTrailing_isPrefix (test : Char → Bool) (chars : List Char) :
    dropTrailing test chars <+: chars := by
  have hsuffix := @List.dropWhile_suffix _ chars.reverse test
  rw [← List.reverse_prefix, List.reverse_reverse] at hsuffix
  exact hsuffix

/-- Trimming leaves no blank at either end. -/
theorem trimmed_trimChars (chars : List Char) : Trimmed (trimChars chars) := by
  constructor
  · intro c hc
    apply head?_dropWhile chars
    obtain ⟨rest, hrest⟩ := dropTrailing_isPrefix isBlank (trimLeading chars)
    rw [trimLeading] at hrest
    rw [← hrest, List.head?_append]
    exact Option.mem_def.mpr (by rw [← trimLeading, ← trimChars, Option.mem_def.mp hc]; rfl)
  · intro c hc
    rw [trimChars, dropTrailing, List.getLast?_reverse] at hc
    exact head?_dropWhile _ c hc

/-- Nothing is trimmed from a trimmed text. -/
theorem trimChars_of_trimmed {chars : List Char} (htrimmed : Trimmed chars) :
    trimChars chars = chars := by
  have hlast : ∀ c ∈ chars.reverse.head?, isBlank c = false := by
    rw [List.head?_reverse]
    exact htrimmed.2
  rw [trimChars, trimLeading, dropWhile_of_head htrimmed.1, dropTrailing, dropWhile_of_head hlast,
    List.reverse_reverse]

/-- The characters of a trimmed text. -/
theorem toList_trim (text : String) : (trim text).toList = trimChars text.toList := by
  rw [trim, String.toList_ofList]

/-- An item of a list: a trimmed text that is not empty. -/
def IsItem (text : String) : Prop := text ≠ "" ∧ Trimmed text.toList

/-- A trimmed text is an item unless nothing is left of it. -/
theorem isItem_trim {text : String} (hne : trim text ≠ "") : IsItem (trim text) := by
  refine ⟨hne, ?_⟩
  rw [toList_trim]
  exact trimmed_trimChars _

/-- Items stay as they are when they are trimmed. -/
theorem IsItem.trim_eq {text : String} (hitem : IsItem text) : trim text = text := by
  rw [trim, trimChars_of_trimmed hitem.2, String.ofList_toList]

/-- What a list with commas holds are items. -/
theorem isItem_of_mem_commaItems {list text : String} (hmem : text ∈ commaItems list) :
    IsItem text := by
  obtain ⟨chars, hchars, rfl⟩ := List.mem_map.mp hmem
  obtain ⟨hpiece, hne⟩ := List.mem_filter.mp hchars
  obtain ⟨piece, -, rfl⟩ := List.mem_map.mp hpiece
  refine ⟨?_, ?_⟩
  · rw [ne_eq, ← String.toList_eq_nil_iff, String.toList_ofList]
    simpa using hne
  · rw [String.toList_ofList]
    exact trimmed_trimChars piece

/-- A text without any blank is trimmed. -/
theorem trimmed_of_any_eq_false {chars : List Char} (hchars : chars.any isBlank = false) :
    Trimmed chars := by
  rw [List.any_eq_false] at hchars
  constructor
  · intro c hc
    exact Bool.eq_false_iff.mpr (hchars c (List.mem_of_head? hc))
  · intro c hc
    exact Bool.eq_false_iff.mpr (hchars c (List.mem_of_getLast? hc))

end SchemaScaffold.Text
