import SchemaScaffold.Proofs.Convention.Characters
import SchemaScaffold.Text.Casing

/-!
# Texts without regard to case

The small form of a text depends on more than its characters: a capital sigma becomes a final one
where a word ends. With that difference put aside, texts are made small character by character, so
the small form of a concatenation is the concatenation of the small forms. No character but a point
becomes a point. So of two concatenations with a point between their parts that differ in case
only, the parts differ in case only as soon as as many points stand in the first parts.
-/

namespace SchemaScaffold.Text

/-- The small sigma whose capital is the same as that of a final sigma. -/
def plainSigma (c : Char) : Char := if c = 'ς' then 'σ' else c

/-- The characters of the small form of a text, with the two small sigmas alike. Texts that differ
in case only have the same. -/
def caseless (text : String) : List Char := (toLower text).toList.map plainSigma

/-- How many points stand in a text. -/
def points (text : String) : Nat := text.toList.count '.'

/-- Apart from final sigmas, characters are made small each by itself. -/
theorem map_plainSigma_lowerFrom (before chars : List Char) :
    (lowerFrom before chars).map plainSigma = (chars.flatMap lowerChar).map plainSigma := by
  induction chars generalizing before with
  | nil => rfl
  | cons c after ih =>
      rw [lowerFrom, List.flatMap_cons, List.map_append, List.map_append, ih]
      congr 1
      split
      case isFalse => rfl
      case isTrue hsigma =>
        have hlower : lowerChar 'Σ' = ['σ'] := by decide +kernel
        rw [hsigma, hlower, lowerSigma]
        split <;> rfl

/-- Without regard to case, a text is made of its characters one by one. -/
theorem caseless_eq_flatMap (text : String) :
    caseless text = text.toList.flatMap fun c => (lowerChar c).map plainSigma := by
  rw [caseless, toLower, String.toList_ofList, map_plainSigma_lowerFrom, List.map_flatMap]

/-- Without regard to case, a concatenation is made of its parts. -/
theorem caseless_append (front back : String) :
    caseless (front ++ back) = caseless front ++ caseless back := by
  simp only [caseless_eq_flatMap, String.toList_append, List.flatMap_append]

/-- A point is the small form of a point only. -/
theorem point_mem_lowerChar {c : Char} (hpoint : '.' ∈ (lowerChar c).map plainSigma) : c = '.' := by
  obtain ⟨d, hd, hplain⟩ := List.mem_map.mp hpoint
  have hdot : d = '.' := by
    unfold plainSigma at hplain
    split at hplain
    case isTrue => exact absurd hplain (by decide)
    case isFalse => exact hplain
  subst hdot
  by_cases hplain : c.toNat < 128
  · rw [lowerChar, if_pos hplain, List.mem_singleton] at hd
    exact of_plain (p := fun c => '.' = c.toLower → c = '.') (by decide +kernel) hplain hd
  · have hname : isNameChar c = true := by
      rw [isNameChar, decide_eq_true (Nat.le_of_not_lt hplain), Bool.or_true]
    exact absurd (isNameChar_lowerChar hname hd) (by decide)

/-- As many points stand in a text without regard to case. -/
theorem count_point_caseless (text : String) : (caseless text).count '.' = points text := by
  rw [caseless_eq_flatMap, points]
  induction text.toList with
  | nil => rfl
  | cons c rest ih =>
      rw [List.flatMap_cons, List.count_append, ih, List.count_cons, Nat.add_comm]
      congr 1
      by_cases hpoint : c = '.'
      · subst hpoint
        decide +kernel
      · rw [List.count_eq_zero_of_not_mem fun hmem => hpoint (point_mem_lowerChar hmem)]
        simp [hpoint]

/-- Where two lists with a separator between their parts are the same, so are the parts if as many
separators stand in the first ones. -/
theorem append_cons_inj_of_count {α : Type} [DecidableEq α] {separator : α}
    {front rest otherFront otherRest : List α}
    (hsame : front ++ separator :: rest = otherFront ++ separator :: otherRest)
    (hcount : front.count separator = otherFront.count separator) :
    front = otherFront ∧ rest = otherRest := by
  induction front generalizing otherFront with
  | nil =>
      cases otherFront with
      | nil => exact ⟨rfl, List.tail_eq_of_cons_eq hsame⟩
      | cons first others =>
          obtain rfl := List.head_eq_of_cons_eq hsame
          simp at hcount
  | cons first others ih =>
      cases otherFront with
      | nil =>
          obtain rfl := List.head_eq_of_cons_eq hsame
          simp at hcount
      | cons otherFirst otherOthers =>
          obtain ⟨rfl, hrest⟩ := List.cons.inj hsame
          simp only [List.count_cons, Nat.add_right_cancel_iff] at hcount
          obtain ⟨rfl, hend⟩ := ih hrest hcount
          exact ⟨rfl, hend⟩

/-- Where three parts joined by points are the same but for case, the parts are the same but for
case if and only if as many points stand in the first parts, and as many in the second ones. -/
theorem caseless_parts_iff {first second third first' second' third' : String}
    (hsame : toLower (first ++ "." ++ second ++ "." ++ third) =
      toLower (first' ++ "." ++ second' ++ "." ++ third')) :
    (caseless first = caseless first' ∧ caseless second = caseless second' ∧
        caseless third = caseless third') ↔
      points first = points first' ∧ points second = points second' := by
  have hjoined : caseless first ++ '.' :: (caseless second ++ '.' :: caseless third) =
      caseless first' ++ '.' :: (caseless second' ++ '.' :: caseless third') := by
    have hpoint : caseless "." = ['.'] := by decide +kernel
    have hwhole := congrArg (fun text => text.toList.map plainSigma) hsame
    change caseless _ = caseless _ at hwhole
    simpa only [caseless_append, hpoint, List.append_assoc, List.cons_append,
      List.nil_append] using hwhole
  constructor
  · rintro ⟨hfirst, hsecond, -⟩
    rw [← count_point_caseless, ← count_point_caseless, ← count_point_caseless second,
      ← count_point_caseless second', hfirst, hsecond]
    exact ⟨rfl, rfl⟩
  · rintro ⟨hfirst, hsecond⟩
    rw [← count_point_caseless, ← count_point_caseless first'] at hfirst
    rw [← count_point_caseless, ← count_point_caseless second'] at hsecond
    obtain ⟨hfront, hrest⟩ := append_cons_inj_of_count hjoined hfirst
    obtain ⟨hmiddle, hback⟩ := append_cons_inj_of_count hrest hsecond
    exact ⟨hfront, hmiddle, hback⟩

end SchemaScaffold.Text
