import SchemaScaffold.Text.Replaced

/-!
# Replacing and putting texts together

Replacing reads a text from left to right, occurrence by occurrence. Two texts may be replaced
apart from each other when no occurrence lies across the seam between them. A text without an
occurrence stays as it is.
-/

namespace SchemaScaffold.Text

variable {pattern : List Char}

/-- Characters that belong to an occurrence are passed over. -/
theorem replaceFrom_skip (pattern replacement : List Char) (skip : Nat) (chars : List Char) :
    replaceFrom pattern replacement skip chars =
      replaceFrom pattern replacement 0 (chars.drop skip) := by
  induction skip generalizing chars with
  | zero => rfl
  | succ skip ih =>
      cases chars with
      | nil => rfl
      | cons c rest => exact ih rest

/-- An occurrence at the start is replaced. -/
theorem replaceFrom_append_pattern (hpattern : pattern ≠ []) (replacement rest : List Char) :
    replaceFrom pattern replacement 0 (pattern ++ rest) =
      replacement ++ replaceFrom pattern replacement 0 rest := by
  cases pattern with
  | nil => exact absurd rfl hpattern
  | cons first others =>
      have hprefix : (first :: others).isPrefixOf (first :: (others ++ rest)) = true :=
        List.isPrefixOf_iff_prefix.mpr ⟨rest, rfl⟩
      rw [List.cons_append, replaceFrom, if_pos hprefix, replaceFrom_skip, List.length_cons,
        Nat.add_sub_cancel, List.drop_left]

/-- A character where no occurrence starts stays. -/
theorem replaceFrom_cons {c : Char} {rest : List Char} (hnone : ¬pattern <+: c :: rest)
    (replacement : List Char) :
    replaceFrom pattern replacement 0 (c :: rest) =
      c :: replaceFrom pattern replacement 0 rest := by
  have hprefix : ¬pattern.isPrefixOf (c :: rest) = true :=
    fun h => hnone (List.isPrefixOf_iff_prefix.mp h)
  rw [replaceFrom, if_neg hprefix]

/-- Texts are read from left to right: an occurrence as a whole, and any other character by
itself. -/
@[elab_as_elim]
theorem occurrence_induction (hpattern : pattern ≠ []) {motive : List Char → Prop}
    (nil : motive []) (occurrence : ∀ rest, motive rest → motive (pattern ++ rest))
    (char : ∀ c rest, ¬pattern <+: c :: rest → motive rest → motive (c :: rest))
    (chars : List Char) : motive chars := by
  induction hlength : chars.length using Nat.strongRecOn generalizing chars with
  | ind length ih =>
      cases chars with
      | nil => exact nil
      | cons c rest =>
          by_cases hprefix : pattern <+: c :: rest
          · obtain ⟨others, hothers⟩ := hprefix
            have hpositive := List.length_pos_iff.mpr hpattern
            have htotal := congrArg List.length hothers
            rw [List.length_append] at htotal
            rw [← hothers]
            exact occurrence others (ih others.length (by omega) others rfl)
          · rw [List.length_cons] at hlength
            exact char c rest hprefix (ih rest.length (by omega) rest rfl)

/-- A text without an occurrence stays as it is. -/
theorem replaceFrom_of_absent {chars : List Char} (hnone : ¬pattern <:+: chars)
    (replacement : List Char) : replaceFrom pattern replacement 0 chars = chars := by
  induction chars with
  | nil => rfl
  | cons c rest ih =>
      have hstart : ¬pattern <+: c :: rest := fun h => hnone h.isInfix
      have hrest : ¬pattern <:+: rest := fun h => hnone (List.infix_cons h)
      rw [replaceFrom_cons hstart, ih hrest]

/-- No occurrence of the pattern lies across the seam between two texts. -/
def Seamless (pattern first second : List Char) : Prop :=
  ∀ start stop, start ≠ [] → stop ≠ [] → start ++ stop = pattern → start <:+ first →
    ¬stop <+: second

/-- Texts without an occurrence across their seam are replaced apart from each other. -/
theorem replaceFrom_append (hpattern : pattern ≠ []) {first second : List Char}
    (hseamless : Seamless pattern first second) (replacement : List Char) :
    replaceFrom pattern replacement 0 (first ++ second) =
      replaceFrom pattern replacement 0 first ++ replaceFrom pattern replacement 0 second := by
  induction first using occurrence_induction hpattern with
  | nil => rfl
  | occurrence rest ih =>
      have hrest : Seamless pattern rest second := fun start stop hstart hstop hsplit hends =>
        hseamless start stop hstart hstop hsplit (List.suffix_append_of_suffix hends)
      rw [List.append_assoc, replaceFrom_append_pattern hpattern,
        replaceFrom_append_pattern hpattern, ih hrest, List.append_assoc]
  | char c rest hnone ih =>
      have hrest : Seamless pattern rest second := fun start stop hstart hstop hsplit hends =>
        hseamless start stop hstart hstop hsplit (hends.trans (List.suffix_cons c rest))
      have hwhole : ¬pattern <+: c :: (rest ++ second) := by
        intro hprefix
        -- Too long for the first text, the occurrence would lie across the seam.
        rcases List.prefix_or_prefix_of_prefix hprefix (List.prefix_append (c :: rest) second) with
          hshort | hlong
        · exact hnone hshort
        · obtain ⟨stop, rfl⟩ := hlong
          have hstop : stop ≠ [] := by
            rintro rfl
            exact hnone (by simp)
          exact hseamless (c :: rest) stop (by simp) hstop rfl (List.suffix_refl _)
            ((List.prefix_append_right_inj _).mp hprefix)
      rw [List.cons_append, replaceFrom_cons hwhole, replaceFrom_cons hnone, ih hrest]
      rfl

variable {separator : Char}

/-- A pattern without the separator stands behind a separator in front. -/
theorem infix_of_infix_cons (hseparator : separator ∉ pattern) {rest : List Char}
    (hstands : pattern <:+: separator :: rest) : pattern <:+: rest := by
  rcases List.infix_cons_iff.mp hstands with hstarts | hrest
  · rcases List.prefix_cons_iff.mp hstarts with rfl | ⟨others, rfl, -⟩
    · exact List.nil_infix
    · exact absurd List.mem_cons_self hseparator
  · exact hrest

/-- A pattern without the separator stands before a separator or behind it. -/
theorem infix_of_infix_append_cons (hseparator : separator ∉ pattern) {front rest : List Char}
    (hstands : pattern <:+: front ++ separator :: rest) :
    pattern <:+: front ∨ pattern <:+: rest := by
  rcases List.infix_append_iff.mp hstands with hfront | hrest | ⟨start, stop, rfl, hends, hbegins⟩
  · exact .inl hfront
  · exact .inr (infix_of_infix_cons hseparator hrest)
  · rcases List.prefix_cons_iff.mp hbegins with rfl | ⟨others, rfl, -⟩
    · rw [List.append_nil]
      exact .inl hends.isInfix
    · exact absurd (List.mem_append_right _ List.mem_cons_self) hseparator

end SchemaScaffold.Text
