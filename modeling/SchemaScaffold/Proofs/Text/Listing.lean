import SchemaScaffold.Proofs.Text.Pieces
import SchemaScaffold.Proofs.Text.Trimming

/-!
# Lists written with commas

A list can be written with any white space around its items, and with commas that have no item
between them. Reading it gives the items alone, as long as no item has a comma of its own and none
has white space at its ends.
-/

namespace SchemaScaffold.Text

/-- White space and nothing else. -/
def IsGap (chars : List Char) : Prop := ∀ c ∈ chars, isBlank c = true

instance (chars : List Char) : Decidable (IsGap chars) :=
  inferInstanceAs (Decidable (∀ c ∈ chars, isBlank c = true))

/-- The characters are a list of the items: with commas between them, white space around each, and
possibly further commas with nothing but white space beside them. -/
inductive IsListOf : List String → List Char → Prop
  /-- A list without items. -/
  | nil {gap : List Char} (hgap : IsGap gap) : IsListOf [] gap
  /-- The last item. -/
  | last {before after : List Char} (item : String) (hbefore : IsGap before)
      (hafter : IsGap after) : IsListOf [item] (before ++ item.toList ++ after)
  /-- An item and a comma before the other items. -/
  | cons {items : List String} {chars before after : List Char} (item : String)
      (hbefore : IsGap before) (hafter : IsGap after) (hrest : IsListOf items chars) :
      IsListOf (item :: items) (before ++ item.toList ++ after ++ ',' :: chars)
  /-- A comma without an item before it. -/
  | skip {items : List String} {chars gap : List Char} (hgap : IsGap gap)
      (hrest : IsListOf items chars) : IsListOf items (gap ++ ',' :: chars)

/-- An item that can stand in such a list: it is an item, and no comma cuts it. -/
def IsUncut (item : String) : Prop := IsItem item ∧ ',' ∉ item.toList

/-- White space before a text is dropped. -/
theorem dropWhile_gap_append {gap : List Char} (hgap : IsGap gap) (chars : List Char) :
    (gap ++ chars).dropWhile isBlank = chars.dropWhile isBlank := by
  induction gap with
  | nil => rfl
  | cons c rest ih =>
      rw [List.cons_append, List.dropWhile_cons_of_pos (hgap c List.mem_cons_self)]
      exact ih fun other hother => hgap other (List.mem_cons_of_mem _ hother)

/-- White space behind a text is dropped. -/
theorem dropTrailing_append_gap {gap : List Char} (hgap : IsGap gap) (chars : List Char) :
    dropTrailing isBlank (chars ++ gap) = dropTrailing isBlank chars := by
  have hreversed : IsGap gap.reverse := fun c hc => hgap c (List.mem_reverse.mp hc)
  rw [dropTrailing, List.reverse_append, dropWhile_gap_append hreversed, dropTrailing]

/-- Nothing is dropped from the end when the last character fails the test. -/
theorem dropTrailing_of_last {test : Char → Bool} {chars : List Char}
    (hlast : ∀ c ∈ chars.getLast?, test c = false) : dropTrailing test chars = chars := by
  have hhead : ∀ c ∈ chars.reverse.head?, test c = false := by
    rw [List.head?_reverse]
    exact hlast
  rw [dropTrailing, dropWhile_of_head hhead, List.reverse_reverse]

/-- A trimmed text with white space around it is trimmed to itself. -/
theorem trimChars_between_gaps {before after chars : List Char} (hbefore : IsGap before)
    (hafter : IsGap after) (htrimmed : Trimmed chars) :
    trimChars (before ++ chars ++ after) = chars := by
  rw [List.append_assoc, trimChars, trimLeading, dropWhile_gap_append hbefore]
  cases chars with
  | nil =>
      have hnone : ([] ++ after).dropWhile isBlank = [] := by
        simpa using dropWhile_gap_append hafter []
      rw [hnone]
      rfl
  | cons c rest =>
      have hhead : ∀ d ∈ (c :: rest ++ after).head?, isBlank d = false := htrimmed.1
      rw [dropWhile_of_head hhead, dropTrailing_append_gap hafter, dropTrailing_of_last htrimmed.2]

/-- The items between the commas, as characters. -/
def trimmedPieces (chars : List Char) : List (List Char) :=
  ((pieces (· = ',') chars).map trimChars).filter (· ≠ [])

/-- The items before a comma come before those behind it. -/
theorem trimmedPieces_append_cons (front rest : List Char) :
    trimmedPieces (front ++ ',' :: rest) = trimmedPieces front ++ trimmedPieces rest := by
  have hcut : (fun c : Char => decide (c = ',')) ',' = true := rfl
  rw [trimmedPieces, pieces_append_cons hcut, List.map_append, List.filter_append]
  rfl

/-- White space has no comma. -/
theorem IsGap.comma_not_mem {gap : List Char} (hgap : IsGap gap) : ',' ∉ gap := fun hcomma =>
  absurd (hgap ',' hcomma) (by decide)

/-- A text without a comma is one item, or none when nothing of it is left. -/
theorem trimmedPieces_of_uncut {chars : List Char} (huncut : ',' ∉ chars) :
    trimmedPieces chars = [trimChars chars].filter (· ≠ []) := by
  have hplain : ∀ c ∈ chars, decide (c = ',') = false := fun c hc =>
    decide_eq_false fun hsame => huncut (hsame ▸ hc)
  rw [trimmedPieces, pieces_of_uncut hplain]
  rfl

/-- White space holds no item. -/
theorem IsGap.trimmedPieces_eq {gap : List Char} (hgap : IsGap gap) : trimmedPieces gap = [] := by
  have hnone : IsGap [] := nofun
  have hempty : Trimmed [] := by simp [Trimmed]
  have hnothing : trimChars gap = [] := by
    simpa using trimChars_between_gaps hgap hnone hempty
  rw [trimmedPieces_of_uncut hgap.comma_not_mem, hnothing]
  rfl

/-- An item with white space around it is read as this item. -/
theorem IsUncut.trimmedPieces_eq {item : String} (huncut : IsUncut item) {before after : List Char}
    (hbefore : IsGap before) (hafter : IsGap after) :
    trimmedPieces (before ++ item.toList ++ after) = [item.toList] := by
  have hplain : ',' ∉ before ++ item.toList ++ after := by
    simp only [List.mem_append, not_or]
    exact ⟨⟨hbefore.comma_not_mem, huncut.2⟩, hafter.comma_not_mem⟩
  have hne : item.toList ≠ [] := by simpa using huncut.1.1
  rw [trimmedPieces_of_uncut hplain, trimChars_between_gaps hbefore hafter huncut.1.2,
    List.filter_cons_of_pos (by simpa using hne), List.filter_nil]

/-- A list of items that no comma cuts is read as these items. -/
theorem commaItems_of_isListOf {items : List String} {chars : List Char}
    (hlist : IsListOf items chars) (hitems : ∀ item ∈ items, IsUncut item) :
    commaItems (String.ofList chars) = items := by
  have hpieces : trimmedPieces chars = items.map String.toList := by
    induction hlist with
    | nil hgap => exact hgap.trimmedPieces_eq
    | last item hbefore hafter =>
        exact (hitems item List.mem_cons_self).trimmedPieces_eq hbefore hafter
    | cons item hbefore hafter hrest ih =>
        have hitem := (hitems item List.mem_cons_self).trimmedPieces_eq hbefore hafter
        have hothers := ih fun other hother => hitems other (List.mem_cons_of_mem _ hother)
        rw [trimmedPieces_append_cons, hitem, hothers]
        rfl
    | skip hgap hrest ih => rw [trimmedPieces_append_cons, hgap.trimmedPieces_eq, ih hitems]; rfl
  rw [commaItems, String.toList_ofList]
  show (trimmedPieces chars).map String.ofList = items
  rw [hpieces, List.map_map]
  simp

/-- The last character of two texts is that of the second one, or of the first one when the second
is empty. -/
theorem mem_getLast?_append {first second : List Char} {c : Char}
    (hc : c ∈ (first ++ second).getLast?) : c ∈ second.getLast? ∨ c ∈ first.getLast? := by
  rw [List.getLast?_append] at hc
  cases hsecond : second.getLast? with
  | none => exact .inr (by simpa [hsecond] using hc)
  | some d => exact .inl (by simpa [hsecond] using hc)

/-- A list ends in white space, in a comma or as its last item does. -/
theorem getLast?_of_isListOf {items : List String} {chars : List Char}
    (hlist : IsListOf items chars) : ∀ c ∈ chars.getLast?, isBlank c = true ∨ c = ',' ∨
      ∃ item ∈ items.getLast?, c ∈ item.toList.getLast? := by
  have hcomma {front rest : List Char} {c : Char} (hc : c ∈ (front ++ ',' :: rest).getLast?) :
      c ∈ rest.getLast? ∨ c = ',' := by
    rw [List.append_cons] at hc
    exact (mem_getLast?_append hc).imp_right fun hc => by simpa [eq_comm] using hc
  induction hlist with
  | nil hgap => exact fun c hc => .inl (hgap c (List.mem_of_mem_getLast? hc))
  | last item hbefore hafter =>
      intro c hc
      rcases mem_getLast?_append hc with hc | hc
      · exact .inl (hafter c (List.mem_of_mem_getLast? hc))
      · rcases mem_getLast?_append hc with hc | hc
        · exact .inr (.inr ⟨item, rfl, hc⟩)
        · exact .inl (hbefore c (List.mem_of_mem_getLast? hc))
  | cons item hbefore hafter hrest ih =>
      intro c hc
      rcases hcomma hc with hc | rfl
      · rcases ih c hc with hblank | rfl | ⟨last, hlast, hc⟩
        · exact .inl hblank
        · exact .inr (.inl rfl)
        · refine .inr (.inr ⟨last, ?_, hc⟩)
          rw [List.getLast?_cons, Option.mem_def.mp hlast]
          rfl
      · exact .inr (.inl rfl)
  | skip hgap hrest ih =>
      intro c hc
      rcases hcomma hc with hc | rfl
      · exact ih c hc
      · exact .inr (.inl rfl)

end SchemaScaffold.Text
