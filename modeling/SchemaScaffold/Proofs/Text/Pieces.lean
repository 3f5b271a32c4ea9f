import SchemaScaffold.Text.Separated

/-!
# Cutting texts that were put together

Cutting a text that has a separator in it is cutting what stands before the separator and what
stands behind it. No piece holds a separator, and a text without one is a single piece.
-/

namespace SchemaScaffold.Text

/-- A text with a separator in it is cut there. -/
theorem pieces_append_cons {cut : Char → Bool} {separator : Char} (hcut : cut separator = true)
    (front rest : List Char) :
    pieces cut (front ++ separator :: rest) = pieces cut front ++ pieces cut rest := by
  induction front with
  | nil => simp [pieces, hcut]
  | cons c front ih =>
      cases hc : cut c with
      | true => simp [pieces, hc, ih]
      | false =>
          simp only [List.cons_append, pieces, hc, Bool.false_eq_true, if_false, ih]
          cases hpieces : pieces cut front with
          | nil => exact absurd hpieces (pieces_ne_nil cut front)
          | cons piece others => rfl

/-- A text without a separator is one piece. -/
theorem pieces_of_uncut {cut : Char → Bool} {chars : List Char}
    (huncut : ∀ c ∈ chars, cut c = false) : pieces cut chars = [chars] := by
  induction chars with
  | nil => rfl
  | cons c rest ih =>
      have hc := huncut c List.mem_cons_self
      have hrest := ih fun other hother => huncut other (List.mem_cons_of_mem _ hother)
      simp [pieces, hc, hrest]

/-- A text is cut once at its first separator. -/
theorem cutOnce_append_cons {separator : Char} {front : List Char} (hfront : separator ∉ front)
    (rest : List Char) : cutOnce separator (front ++ separator :: rest) = some (front, rest) := by
  induction front with
  | nil => simp [cutOnce]
  | cons c front ih =>
      have hc := List.ne_of_not_mem_cons hfront
      rw [List.cons_append, cutOnce, if_neg fun h => hc h.symm,
        ih (List.not_mem_of_not_mem_cons hfront)]
      rfl

/-- A text without a separator is not cut. -/
theorem cutOnce_of_not_mem {separator : Char} {chars : List Char} (hchars : separator ∉ chars) :
    cutOnce separator chars = none := by
  induction chars with
  | nil => rfl
  | cons c rest ih =>
      have hc := List.ne_of_not_mem_cons hchars
      rw [cutOnce, if_neg fun h => hc h.symm, ih (List.not_mem_of_not_mem_cons hchars)]
      rfl

/-- No piece holds a character at which the text was cut, and nothing is added to the text. -/
theorem of_mem_pieces {cut : Char → Bool} {chars piece : List Char} {c : Char}
    (hpiece : piece ∈ pieces cut chars) (hc : c ∈ piece) : c ∈ chars ∧ cut c = false := by
  induction chars generalizing piece with
  | nil =>
      obtain rfl := List.mem_singleton.mp hpiece
      cases hc
  | cons first rest ih =>
      have hlift {piece : List Char} (hmem : piece ∈ pieces cut rest) (hc : c ∈ piece) :
          c ∈ first :: rest ∧ cut c = false :=
        (ih hmem hc).imp_left (List.mem_cons_of_mem _)
      unfold pieces at hpiece
      split at hpiece
      case isTrue =>
        rcases List.mem_cons.mp hpiece with rfl | hrest
        · cases hc
        · exact hlift hrest hc
      case isFalse hkept =>
        split at hpiece
        case h_1 hnone => exact absurd hnone (pieces_ne_nil cut rest)
        case h_2 head others hsplit =>
          rcases List.mem_cons.mp hpiece with rfl | hothers
          · rcases List.mem_cons.mp hc with rfl | hc
            · exact ⟨List.mem_cons_self, by simpa using hkept⟩
            · exact hlift (by rw [hsplit]; exact List.mem_cons_self) hc
          · exact hlift (by rw [hsplit]; exact List.mem_cons_of_mem _ hothers) hc

end SchemaScaffold.Text
