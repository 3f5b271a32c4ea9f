import SchemaScaffold.Proofs.Convention.Characters

/-!
# Spellings that differ in case

Where an identifier is cut into words depends on its capitals: `BlogPosts` is two words and
`blogposts` is one. So spellings that differ in case only can be different identifiers, and what is
derived from them differs. They are the same identifier as soon as they are cut at the same places,
which is the case for `BLOG_POSTS` and `blog_posts`. The words of a text lose nothing but what
separates them, and in lower case the case of ASCII letters is forgotten; so equal lengths of the
words make the texts the same in snake case.
-/

namespace SchemaScaffold.Text

/-- Cutting drops exactly the characters at which it cuts. -/
theorem flatten_pieces (cut : Char → Bool) (chars : List Char) :
    (pieces cut chars).flatten = chars.filter fun c => !cut c := by
  induction chars with
  | nil => rfl
  | cons c rest ih =>
      cases hc : cut c with
      | true => simp [pieces, hc, ih]
      | false =>
          simp only [pieces, hc, Bool.false_eq_true, if_false]
          cases hpieces : pieces cut rest with
          | nil => exact absurd hpieces (pieces_ne_nil cut rest)
          | cons piece others =>
              rw [hpieces] at ih
              simpa [hc] using ih

/-- The words of a piece together are the piece, behind what was read of the current word. -/
theorem flatten_cutWords (phase : WordPhase) (word : List Char) {chars : List Char}
    (hchars : chars ≠ []) : (cutWords phase word chars).flatten = word.reverse ++ chars := by
  induction chars generalizing phase word with
  | nil => exact absurd rfl hchars
  | cons c rest ih =>
      cases rest with
      | nil => simp [cutWords]
      | cons next others =>
          have hrest (phase : WordPhase) (word : List Char) :=
            ih phase word (List.cons_ne_nil next others)
          unfold cutWords
          split
          · simp [hrest]
          · split
            · simp [hrest]
            · simp [hrest]

/-- The words of a text together are its letters and numbers. -/
theorem flatten_words (text : String) :
    (words text).flatten = text.toList.filter isAlphanumeric := by
  have hpiece (piece : List Char) : (cutWords .fresh [] piece).flatten = piece := by
    cases piece with
    | nil => rfl
    | cons c rest => exact flatten_cutWords .fresh [] (List.cons_ne_nil c rest)
  have hpieces := flatten_pieces (fun c => !isAlphanumeric c) text.toList
  simp only [Bool.not_not] at hpieces
  rw [words, List.flatMap_def, List.flatten_flatten, List.map_map, ← hpieces]
  simp only [Function.comp_def, hpiece, List.map_id']

/-- Only ASCII letters have a small form among ASCII letters. -/
theorem toLower_of_beyond {c : Char} (hbeyond : ¬c.toNat < 128) : c.toLower = c := by
  unfold Char.toLower
  rw [dif_neg]
  rintro ⟨-, hcapital⟩
  have hplain : c.toNat ≤ 'Z'.toNat := hcapital
  exact hbeyond (Nat.lt_of_le_of_lt hplain (by decide))

/-- A character is a letter or number whatever its case. -/
theorem isAlphanumeric_toLower (c : Char) : isAlphanumeric c.toLower = isAlphanumeric c := by
  by_cases hplain : c.toNat < 128
  · exact of_plain (p := fun c => isAlphanumeric c.toLower = isAlphanumeric c)
      (by decide +kernel) hplain
  · rw [toLower_of_beyond hplain]

/-- A character has the same small form whatever its case. -/
theorem lowerChar_toLower (c : Char) : lowerChar c.toLower = lowerChar c := by
  by_cases hplain : c.toNat < 128
  · exact of_plain (p := fun c => lowerChar c.toLower = lowerChar c) (by decide +kernel) hplain
  · rw [toLower_of_beyond hplain]

/-- A capital sigma is no small form of an ASCII letter. -/
theorem eq_sigma_of_toLower {c : Char} (hsigma : c.toLower = 'Σ') : c = 'Σ' := by
  by_cases hplain : c.toNat < 128
  · exact of_plain (p := fun c => c.toLower = 'Σ' → c = 'Σ') (by decide +kernel) hplain hsigma
  · rwa [toLower_of_beyond hplain] at hsigma

/-- A word has the same lower case whatever the case of its ASCII letters. -/
theorem lowerWord_map_toLower (word : List Char) :
    lowerWord (word.map Char.toLower) = lowerWord word := by
  induction word using lowerWord.induct with
  | case1 => rfl
  | case2 => rfl
  | case3 c rest hsigma ih =>
      have hsigma' : c.toLower = 'Σ' → rest.map Char.toLower = [] → False :=
        fun hc hrest => hsigma (eq_sigma_of_toLower hc) (List.map_eq_nil_iff.mp hrest)
      rw [List.map_cons, lowerWord, lowerWord, lowerChar_toLower, ih]
      · exact hsigma
      · exact hsigma'

/-- Two texts are cut into words at the same places: their words are equally long. -/
def CutAlike (first second : String) : Prop :=
  (words first).map List.length = (words second).map List.length

instance (first second : String) : Decidable (CutAlike first second) :=
  inferInstanceAs (Decidable (_ = _))

/-- Spellings that differ in the case of ASCII letters only, and that are cut at the same places,
are the same in snake case. -/
theorem snakeCase_eq_of_cutAlike {first second : String}
    (hcase : eqIgnoringAsciiCase first second = true) (hcut : CutAlike first second) :
    snakeCase first = snakeCase second := by
  have hchars : first.toList.map Char.toLower = second.toList.map Char.toLower :=
    beq_iff_eq.mp hcase
  have hletters (text : String) : ((words text).map (List.map Char.toLower)).flatten =
      (text.toList.map Char.toLower).filter isAlphanumeric := by
    rw [← List.map_flatten, flatten_words, List.filter_map]
    simp only [Function.comp_def, isAlphanumeric_toLower]
  have hlengths (text : String) :
      ((words text).map (List.map Char.toLower)).map List.length = (words text).map List.length := by
    simp only [List.map_map, Function.comp_def, List.length_map]
  have hwords : (words first).map (List.map Char.toLower) =
      (words second).map (List.map Char.toLower) := by
    refine List.eq_iff_flatten_eq.mpr ⟨?_, ?_⟩
    · rw [hletters, hletters, hchars]
    · rw [hlengths, hlengths, hcut]
  have hlower (text : String) :
      (words text).map lowerWord = ((words text).map (List.map Char.toLower)).map lowerWord := by
    simp only [List.map_map, Function.comp_def, lowerWord_map_toLower]
  rw [snakeCase, snakeCase, hlower first, hwords, ← hlower second]

-- Capitals all over cut no word, and capitals among small letters do.
example : CutAlike "BLOG_POSTS" "blog_posts" ∧ ¬CutAlike "blogposts" "BlogPosts" := by
  decide +kernel

end SchemaScaffold.Text
