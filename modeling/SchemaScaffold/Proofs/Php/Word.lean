import SchemaScaffold.Decimal.Spelling
import SchemaScaffold.Proofs.Decimal.Numeral
import SchemaScaffold.Proofs.Php.Statement

/-!
# Words that may stand without quotes

Numbers are written into generated statements without quotes. Their texts, and every text that
spells a number, are bare words: they hold nothing that a reader could take for a quote, a blank or
punctuation.
-/

namespace SchemaScaffold.Php

/-- The characters of numbers may stand in bare words. -/
theorem isBareChar_of_isNumeralChar {c : Char} (hc : isNumeralChar c = true) :
    isBareChar c = true := by
  simp only [isNumeralChar, Bool.or_eq_true, beq_iff_eq] at hc
  rcases hc with (((hdigit | rfl) | rfl) | rfl) | rfl
  · simp [isBareChar, isNameChar, Char.isAlphanum, hdigit]
  all_goals decide

/-- A number of JSON is a bare word. -/
theorem isBareWord_render (number : JsonNumber) : IsBareWord number.render :=
  ⟨number.render_ne_empty, fun c hc => isBareChar_of_isNumeralChar (number.isNumeral_render c hc)⟩

/-- A natural number is a bare word. -/
theorem isBareWord_natRepr (n : Nat) : IsBareWord n.repr :=
  ⟨Nat.repr_ne_empty, fun c hc => isBareChar_of_isNumeralChar (isNumeral_natRepr n c hc)⟩

/-- Digits may stand in bare words. -/
theorem isBareChar_of_isDigit {c : Char} (hdigit : c.isDigit = true) : isBareChar c = true := by
  simp [isBareChar, isNameChar, Char.isAlphanum, hdigit]

/-- A character whose small form is a letter is an ASCII letter itself. -/
theorem isBareChar_of_isAlpha_toLower {c : Char} (hlower : c.toLower.isAlpha = true) :
    isBareChar c = true := by
  have halpha : c.isAlpha = true := by
    by_cases hupper : 'A'.val ≤ c.val ∧ c.val ≤ 'Z'.val
    · have hcapital : c.isUpper = true := decide_eq_true hupper
      exact Bool.or_eq_true_iff.mpr (Or.inl hcapital)
    · have hsame : c.toLower = c := dif_neg hupper
      rwa [hsame] at hlower
  simp [isBareChar, isNameChar, Char.isAlphanum, halpha]

/-- A character is the sign of a text or stands behind it. -/
theorem mem_dropSign {c : Char} {text : List Char} (hc : c ∈ text) :
    isBareChar c = true ∨ c ∈ Decimal.dropSign text := by
  unfold Decimal.dropSign
  split
  case h_1 | h_2 =>
      rcases List.mem_cons.mp hc with rfl | hc
      · exact .inl (by decide)
      · exact .inr hc
  case h_3 => exact .inr hc

/-- A text that is taken apart by `takeWhile` and `dropWhile` at digits. -/
theorem mem_dropWhile_isDigit {c : Char} {text : List Char} (hc : c ∈ text) :
    isBareChar c = true ∨ c ∈ text.dropWhile Char.isDigit := by
  rw [← @List.takeWhile_append_dropWhile _ Char.isDigit text] at hc
  rcases List.mem_append.mp hc with hc | hc
  · exact .inl (isBareChar_of_isDigit (List.all_eq_true.mp List.all_takeWhile c hc))
  · exact .inr hc

/-- The characters of an exponent. -/
theorem isBareChar_of_isExponent {text : List Char} (hexponent : Decimal.isExponent text = true)
    {c : Char} (hc : c ∈ text) : isBareChar c = true := by
  cases text with
  | nil => simp at hc
  | cons letter rest =>
      simp only [Decimal.isExponent, Bool.and_eq_true, Bool.or_eq_true, beq_iff_eq,
        List.all_eq_true] at hexponent
      obtain ⟨⟨hletter, -⟩, hdigits⟩ := hexponent
      rcases List.mem_cons.mp hc with rfl | hc
      · rcases hletter with rfl | rfl <;> decide
      · rcases mem_dropSign hc with hc | hc
        · exact hc
        · exact isBareChar_of_isDigit (hdigits c hc)

/-- The characters of a number without its sign. -/
theorem isBareChar_of_isUnsignedNumber {text : List Char}
    (hnumber : Decimal.isUnsignedNumber text = true) {c : Char} (hc : c ∈ text) :
    isBareChar c = true := by
  rcases mem_dropWhile_isDigit hc with hc | hc
  · exact hc
  unfold Decimal.isUnsignedNumber at hnumber
  simp only at hnumber
  split at hnumber
  case h_1 rest hpoint =>
      rw [hpoint] at hc
      rcases List.mem_cons.mp hc with rfl | hc
      · decide
      · rcases mem_dropWhile_isDigit hc with hc | hc
        · exact hc
        · exact isBareChar_of_isExponent (Bool.and_eq_true_iff.mp hnumber).2 hc
  case h_2 => exact isBareChar_of_isExponent (Bool.and_eq_true_iff.mp hnumber).2 hc

/-- The words for values that are no numbers consist of letters. -/
theorem isBareChar_of_specialWord {body : List Char}
    (hword : Decimal.specialWords.contains (String.ofList (body.map Char.toLower)) = true)
    {c : Char} (hc : c ∈ body) : isBareChar c = true := by
  have hletters : ∀ word ∈ Decimal.specialWords, word.toList.all Char.isAlpha = true := by
    decide +kernel
  have hmem := List.contains_iff_mem.mp hword
  refine isBareChar_of_isAlpha_toLower (List.all_eq_true.mp (hletters _ hmem) _ ?_)
  rw [String.toList_ofList]
  exact List.mem_map_of_mem hc

/-- A text that spells a number is a bare word. -/
theorem isBareWord_of_isSpelt {text : List Char} (hspelt : Decimal.isSpelt text = true) :
    IsBareWord (String.ofList text) := by
  constructor
  · rintro hempty
    obtain rfl : text = [] := by simpa using hempty
    exact absurd hspelt (by decide)
  · intro c hc
    rw [String.toList_ofList] at hc
    rcases mem_dropSign hc with hc | hc
    · exact hc
    · simp only [Decimal.isSpelt, Bool.or_eq_true] at hspelt
      rcases hspelt with hnumber | hword
      · exact isBareChar_of_isUnsignedNumber hnumber hc
      · exact isBareChar_of_specialWord hword hc

end SchemaScaffold.Php
