import SchemaScaffold.Proofs.Text.CaseImage
import SchemaScaffold.Proofs.Text.Wording

/-!
# How a text opens

Whether a name can stand in generated code depends on its first character, and an ASCII digit is the
one that rules it out. Changing the case of a text that opens with a letter or number never changes
which of the two it is, and a text put together from the words of a name opens as the letters and
numbers of the name do.
-/

namespace SchemaScaffold.Text

/-- What a text opens with. -/
inductive Opening
  | nothing
  /-- An ASCII digit. -/
  | digit
  /-- Any other letter or number. -/
  | letter
  /-- A character that is neither letter nor number. -/
  | separator
  deriving DecidableEq, Repr

/-- What the characters of a text open with. -/
def opening : List Char → Opening
  | [] => .nothing
  | c :: _ =>
    if isAlphanumeric c then (if c.isDigit then .digit else .letter) else .separator

/-- The letters and numbers of a text. -/
def letters (text : String) : List Char := text.toList.filter isAlphanumeric

/-- Only the empty text opens with nothing. -/
theorem opening_eq_nothing_iff {chars : List Char} : opening chars = .nothing ↔ chars = [] := by
  cases chars with
  | nil => exact iff_of_true rfl rfl
  | cons c rest =>
      cases hc : isAlphanumeric c <;> cases hdigit : c.isDigit <;> simp [opening, hc, hdigit]

/-- A text that opens with no separator has a letter or number as its first character. -/
theorem opening_cons_ne_separator_iff {c : Char} {rest : List Char} :
    opening (c :: rest) ≠ .separator ↔ isAlphanumeric c = true := by
  cases hc : isAlphanumeric c <;> cases hdigit : c.isDigit <;> simp [opening, hc, hdigit]

/-- A text that opens with a letter has a letter or number as its first character, but no ASCII
digit. -/
theorem opening_cons_eq_letter_iff {c : Char} {rest : List Char} :
    opening (c :: rest) = .letter ↔ isAlphanumeric c = true ∧ c.isDigit = false := by
  cases hc : isAlphanumeric c <;> cases hdigit : c.isDigit <;> simp [opening, hc, hdigit]

/-- What stands behind does not matter. -/
theorem opening_append {front : List Char} (hfront : front ≠ []) (back : List Char) :
    opening (front ++ back) = opening front := by
  cases front with
  | nil => exact absurd rfl hfront
  | cons c rest => rfl

/-- Changing the case of the first character. -/
theorem opening_recased {recase : Char → List Char}
    (hrecase : ∀ c, isAlphanumeric c = true → ∃ d rest, recase c = d :: rest ∧
      isAlphanumeric d = true ∧ d.isDigit = c.isDigit)
    {c : Char} (hc : isAlphanumeric c = true) (rest back : List Char) :
    opening (recase c ++ back) = opening (c :: rest) := by
  obtain ⟨d, others, himage, hd, hdigit⟩ := hrecase c hc
  rw [himage]
  simp [opening, hc, hd, hdigit]

/-- A word in lower case opens as the word does. -/
theorem opening_lowerWord {word : List Char} (hword : opening word ≠ .separator) :
    opening (lowerWord word) = opening word := by
  unfold lowerWord
  split
  case h_1 => rfl
  case h_2 => decide +kernel
  case h_3 c rest _ =>
    have hc : isAlphanumeric c = true := opening_cons_ne_separator_iff.mp hword
    exact opening_recased (fun _ => exists_lowerChar) hc rest _

/-- A word with a capital at its start opens as the word does. -/
theorem opening_capitalWord {word : List Char} (hword : opening word ≠ .separator) :
    opening (capitalWord word) = opening word := by
  cases word with
  | nil => rfl
  | cons c rest =>
      have hc : isAlphanumeric c = true := opening_cons_ne_separator_iff.mp hword
      exact opening_recased (fun _ => exists_upperChar) hc rest _

/-- A text in lower case opens as the text does. -/
theorem opening_toLower {text : String} (htext : opening text.toList ≠ .separator) :
    opening (toLower text).toList = opening text.toList := by
  rw [toLower, String.toList_ofList]
  cases hchars : text.toList with
  | nil => rfl
  | cons c rest =>
      rw [hchars] at htext
      have hc : isAlphanumeric c = true := opening_cons_ne_separator_iff.mp htext
      unfold lowerFrom
      split
      case isTrue hsigma =>
        subst hsigma
        unfold lowerSigma
        split <;> rfl
      case isFalse => exact opening_recased (fun _ => exists_lowerChar) hc rest _

/-- A text in upper case opens as the text does. -/
theorem opening_toUpper {text : String} (htext : opening text.toList ≠ .separator) :
    opening (toUpper text).toList = opening text.toList := by
  rw [toUpper, String.toList_ofList]
  cases hchars : text.toList with
  | nil => rfl
  | cons c rest =>
      rw [hchars] at htext
      have hc : isAlphanumeric c = true := opening_cons_ne_separator_iff.mp htext
      exact opening_recased (fun _ => exists_upperChar) hc rest _

/-- Words are not empty. -/
theorem ne_nil_of_mem_cutWords {phase : WordPhase} {current chars word : List Char}
    (hphase : phase = .capital → current ≠ []) (hword : word ∈ cutWords phase current chars) :
    word ≠ [] := by
  induction chars generalizing phase current with
  | nil => cases hword
  | cons c rest ih =>
      cases rest with
      | nil =>
          obtain rfl := List.mem_singleton.mp hword
          simp
      | cons next others =>
          unfold cutWords at hword
          split at hword
          · rcases List.mem_cons.mp hword with rfl | hword
            · simp
            · exact ih (by simp) hword
          · split at hword
            case isTrue hcapital =>
              rcases List.mem_cons.mp hword with rfl | hword
              · simpa using hphase hcapital.1
              · exact ih (by simp) hword
            case isFalse => exact ih (by simp) hword

/-- The words of a text are not empty, and the first of them opens as the letters and numbers of the
text do. -/
theorem opening_words {text : String} {word : List Char} {rest : List (List Char)}
    (hwords : words text = word :: rest) :
    word ≠ [] ∧ opening (letters text) = opening word ∧ opening word ≠ .separator := by
  have hmem : word ∈ words text := hwords ▸ List.mem_cons_self
  have hne : word ≠ [] := by
    obtain ⟨piece, -, hcut⟩ := List.mem_flatMap.mp hmem
    exact ne_nil_of_mem_cutWords (by simp) hcut
  have hletters : letters text = word ++ rest.flatten := by
    rw [letters, ← flatten_words, hwords, List.flatten_cons]
  refine ⟨hne, hletters ▸ opening_append hne _, ?_⟩
  obtain ⟨c, others, rfl⟩ := List.exists_cons_of_ne_nil hne
  have hc : c ∈ letters text := hletters ▸ List.mem_append_left _ List.mem_cons_self
  exact opening_cons_ne_separator_iff.mpr (List.mem_filter.mp hc).2

/-- A text without words has no letters and numbers. -/
theorem letters_of_words_nil {text : String} (hwords : words text = []) : letters text = [] := by
  rw [letters, ← flatten_words, hwords, List.flatten_nil]

/-- The letters and numbers of a text open with one of them, if there are any. -/
theorem opening_letters_ne_separator (text : String) : opening (letters text) ≠ .separator := by
  cases hwords : words text with
  | nil => simp [letters_of_words_nil hwords, opening]
  | cons word rest =>
      obtain ⟨-, hopening, hseparator⟩ := opening_words hwords
      rwa [hopening]

/-- The letters and numbers of a text that opens with one of them open as the text does. -/
theorem opening_letters {text : String} (htext : opening text.toList ≠ .separator) :
    opening (letters text) = opening text.toList := by
  unfold letters
  cases hchars : text.toList with
  | nil => rfl
  | cons c rest =>
      rw [hchars] at htext
      have hc : isAlphanumeric c = true := opening_cons_ne_separator_iff.mp htext
      rw [List.filter_cons_of_pos hc]
      rfl

/-- What is put together from the words of a text, with its first word recased at the start. -/
theorem opening_recased_words {text : String} {word : List Char} {rest : List (List Char)}
    (hwords : words text = word :: rest) {recased : List Char}
    (hrecased : opening recased = opening word) (back : List Char) :
    opening (recased ++ back) = opening (letters text) := by
  obtain ⟨hne, hopening, -⟩ := opening_words hwords
  have hrecasedNe : recased ≠ [] := by
    rwa [ne_eq, ← opening_eq_nothing_iff, hrecased, opening_eq_nothing_iff]
  rw [opening_append hrecasedNe, hrecased, hopening]

/-- A text in snake case opens as its letters and numbers do. -/
theorem opening_snakeCase (text : String) :
    opening (snakeCase text).toList = opening (letters text) := by
  rw [snakeCase, String.toList_ofList]
  cases hwords : words text with
  | nil => rw [letters_of_words_nil hwords]; rfl
  | cons word rest =>
      have hlower := opening_lowerWord (opening_words hwords).2.2
      cases rest with
      | nil =>
          rw [← opening_recased_words hwords hlower [], List.append_nil]
          rfl
      | cons second others => exact opening_recased_words hwords hlower _

/-- A text in camel case opens as its letters and numbers do. -/
theorem opening_upperCamelCase (text : String) :
    opening (upperCamelCase text).toList = opening (letters text) := by
  rw [upperCamelCase, String.toList_ofList]
  cases hwords : words text with
  | nil => rw [letters_of_words_nil hwords]; rfl
  | cons word rest =>
      rw [List.flatMap_cons]
      exact opening_recased_words hwords (opening_capitalWord (opening_words hwords).2.2) _

/-- So it does when the first word is small. -/
theorem opening_lowerCamelCase (text : String) :
    opening (lowerCamelCase text).toList = opening (letters text) := by
  unfold lowerCamelCase
  split
  case h_1 hwords => rw [letters_of_words_nil hwords]; rfl
  case h_2 word rest hwords =>
    rw [String.toList_ofList]
    exact opening_recased_words hwords (opening_lowerWord (opening_words hwords).2.2) _

end SchemaScaffold.Text
