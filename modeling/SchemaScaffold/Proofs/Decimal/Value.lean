import Mathlib.Algebra.Field.Rat
import SchemaScaffold.Decimal.Spelling
import SchemaScaffold.Proofs.Decimal.Whole

/-!
# The values of decimal numbers

A decimal number has digits on at least one side of a point, or no point, and may have a sign and an
exponent. Its value is exact, however many digits it has and however large its exponent is.

`isSpelt_iff` says that exactly such texts and the words for infinity and for not-a-number count as
spelt numbers; these words have no value.
-/

namespace SchemaScaffold.Decimal

/-- The digits of a number, with a point or without one, and their value. -/
inductive Significand : List Char → ℚ → Prop
  | whole {digits : List Char} (hne : digits ≠ []) (hdigits : digits.all Char.isDigit = true) :
      Significand digits (Nat.ofDigitChars 10 digits 0)
  | point {whole fraction : List Char} (hwhole : whole.all Char.isDigit = true)
      (hfraction : fraction.all Char.isDigit = true) (hne : whole ≠ [] ∨ fraction ≠ []) :
      Significand (whole ++ '.' :: fraction)
        (Nat.ofDigitChars 10 whole 0 + Nat.ofDigitChars 10 fraction 0 / 10 ^ fraction.length)

/-- The exponent of a number, which may be missing. -/
inductive Exponent : List Char → ℤ → Prop
  | none : Exponent [] 0
  | given {mark : Char} {chars : List Char} {exponent : ℤ} (hmark : mark = 'e' ∨ mark = 'E')
      (hspells : SpellsWhole chars exponent) : Exponent (mark :: chars) exponent

/-- A number without a sign and its value. -/
def DenotesUnsigned (chars : List Char) (value : ℚ) : Prop :=
  ∃ digits scale significand exponent, Significand digits significand ∧ Exponent scale exponent ∧
    chars = digits ++ scale ∧ value = significand * 10 ^ exponent

/-- A number and its value. -/
inductive Denotes : List Char → ℚ → Prop
  | unsigned {chars : List Char} {value : ℚ} (hvalue : DenotesUnsigned chars value) :
      Denotes chars value
  | positive {chars : List Char} {value : ℚ} (hvalue : DenotesUnsigned chars value) :
      Denotes ('+' :: chars) value
  | negative {chars : List Char} {value : ℚ} (hvalue : DenotesUnsigned chars value) :
      Denotes ('-' :: chars) (-value)

/-- The characters name infinity or not-a-number, with or without a sign and in any case. -/
def NamesNoNumber (chars : List Char) : Prop :=
  specialWords.contains (String.ofList ((dropSign chars).map Char.toLower)) = true

/-- Behind a sign there are digits, and nothing else, exactly when a whole number is spelt. -/
theorem exists_spellsWhole_iff {chars : List Char} :
    (∃ n, SpellsWhole chars n) ↔
      dropSign chars ≠ [] ∧ (dropSign chars).all Char.isDigit = true := by
  constructor
  · rintro ⟨n, hspells⟩
    cases hspells with
    | positive hne hdigits | negative hne hdigits => exact ⟨hne, hdigits⟩
    | unsigned hne hdigits =>
        unfold dropSign
        split
        case h_1 | h_2 =>
          exact absurd (List.all_eq_true.mp hdigits _ List.mem_cons_self) (by decide)
        case h_3 => exact ⟨hne, hdigits⟩
  · unfold dropSign
    split
    case h_1 => exact fun ⟨hne, hdigits⟩ => ⟨_, .positive hne hdigits⟩
    case h_2 => exact fun ⟨hne, hdigits⟩ => ⟨_, .negative hne hdigits⟩
    case h_3 => exact fun ⟨hne, hdigits⟩ => ⟨_, .unsigned hne hdigits⟩

/-- Exactly the texts of exponents have one as their value. -/
theorem isExponent_iff {chars : List Char} :
    isExponent chars = true ↔ ∃ exponent, Exponent chars exponent := by
  cases chars with
  | nil => exact iff_of_true rfl ⟨0, .none⟩
  | cons mark rest =>
      have hparts : isExponent (mark :: rest) = true ↔
          (mark = 'e' ∨ mark = 'E') ∧ ∃ n, SpellsWhole rest n := by
        rw [exists_spellsWhole_iff]
        simp only [isExponent, Bool.and_eq_true, Bool.or_eq_true, beq_iff_eq, bne_iff_ne, and_assoc]
      rw [hparts]
      constructor
      · rintro ⟨hmark, n, hspells⟩
        exact ⟨n, .given hmark hspells⟩
      · rintro ⟨n, hexponent⟩
        cases hexponent with
        | given hmark hspells => exact ⟨hmark, n, hspells⟩

/-- An exponent starts with its mark, if it is there at all. -/
theorem Exponent.not_isDigit_head {scale : List Char} {exponent : ℤ}
    (hexponent : Exponent scale exponent) : ∀ c ∈ scale.head?, c.isDigit = false := by
  intro c hc
  cases hexponent with
  | none => cases hc
  | given hmark =>
      obtain rfl := Option.some.inj hc
      rcases hmark with rfl | rfl <;> decide

/-- Digits are taken up to the first other character. -/
theorem span_digits {digits tail : List Char} (hdigits : digits.all Char.isDigit = true)
    (htail : ∀ c ∈ tail.head?, c.isDigit = false) :
    (digits ++ tail).takeWhile Char.isDigit = digits ∧
      (digits ++ tail).dropWhile Char.isDigit = tail := by
  have hall := List.all_eq_true.mp hdigits
  rw [List.takeWhile_append_of_pos hall, List.dropWhile_append_of_pos hall]
  cases tail with
  | nil => simp
  | cons c rest => simp [htail c rfl]

/-- Exactly the texts of numbers without a sign have a value. -/
theorem isUnsignedNumber_iff {chars : List Char} :
    isUnsignedNumber chars = true ↔ ∃ value, DenotesUnsigned chars value := by
  have htaken (text : List Char) : (text.takeWhile Char.isDigit).all Char.isDigit = true :=
    List.all_takeWhile
  constructor
  · intro hnumber
    unfold isUnsignedNumber at hnumber
    simp only at hnumber
    have hcut := (@List.takeWhile_append_dropWhile _ Char.isDigit chars).symm
    split at hnumber
    case h_1 rest hpoint =>
      rw [Bool.and_eq_true, isExponent_iff] at hnumber
      obtain ⟨hne, exponent, hexponent⟩ := hnumber
      refine ⟨_, _, _, _, _, .point (htaken chars) (htaken rest) ?_, hexponent, ?_, rfl⟩
      · simpa only [Bool.or_eq_true, bne_iff_ne] using hne
      · rw [List.append_assoc, List.cons_append, List.takeWhile_append_dropWhile, ← hpoint, ← hcut]
    case h_2 =>
      rw [Bool.and_eq_true, isExponent_iff, bne_iff_ne] at hnumber
      obtain ⟨hne, exponent, hexponent⟩ := hnumber
      exact ⟨_, _, _, _, _, .whole hne (htaken chars), hexponent, hcut, rfl⟩
  · rintro ⟨value, digits, scale, significand, exponent, hdigits, hexponent, rfl, -⟩
    have hscale : isExponent scale = true := isExponent_iff.mpr ⟨exponent, hexponent⟩
    rw [isUnsignedNumber]
    cases hdigits with
    | whole hne hdigits =>
        obtain ⟨htake, hdrop⟩ := span_digits hdigits hexponent.not_isDigit_head
        simp only [htake, hdrop]
        split
        case h_1 => exact absurd hscale (by simp [isExponent])
        case h_2 => simp [hne, hscale]
    | @point whole fraction hwhole hfraction hne =>
        obtain ⟨htake, hdrop⟩ := @span_digits whole ('.' :: (fraction ++ scale)) hwhole
          fun c hc => Option.some.inj hc ▸ rfl
        obtain ⟨htakeFraction, hdropFraction⟩ := span_digits hfraction hexponent.not_isDigit_head
        simp only [List.append_assoc, List.cons_append, htake, hdrop, htakeFraction, hdropFraction]
        simpa [hscale] using hne

/-- A number without a sign starts with a digit or a point. -/
theorem DenotesUnsigned.exists_head {chars : List Char} {value : ℚ}
    (hvalue : DenotesUnsigned chars value) :
    ∃ c rest, chars = c :: rest ∧ (c.isDigit = true ∨ c = '.') := by
  obtain ⟨digits, scale, significand, exponent, hdigits, -, rfl, -⟩ := hvalue
  have hhead {digits : List Char} (hne : digits ≠ []) (hdigits : digits.all Char.isDigit = true)
      (tail : List Char) : ∃ c rest, digits ++ tail = c :: rest ∧ (c.isDigit = true ∨ c = '.') := by
    obtain ⟨c, rest, rfl⟩ := List.exists_cons_of_ne_nil hne
    exact ⟨c, rest ++ tail, rfl, .inl (List.all_eq_true.mp hdigits c List.mem_cons_self)⟩
  cases hdigits with
  | whole hne hdigits => exact hhead hne hdigits scale
  | @point whole fraction hwhole _ _ =>
      rw [List.append_assoc]
      by_cases hne : whole = []
      · subst hne
        exact ⟨'.', _, rfl, .inr rfl⟩
      · exact hhead hne hwhole _

/-- A number without a sign has none to drop. -/
theorem DenotesUnsigned.dropSign_eq {chars : List Char} {value : ℚ}
    (hvalue : DenotesUnsigned chars value) : dropSign chars = chars := by
  obtain ⟨c, rest, rfl, hc⟩ := hvalue.exists_head
  unfold dropSign
  split
  case h_1 heq | h_2 heq =>
    obtain ⟨rfl, -⟩ := List.cons.inj heq
    exact absurd hc (by decide)
  case h_3 => rfl

/-- Exactly the numbers with a value are spelt, and the words for what is no number. -/
theorem isSpelt_iff {chars : List Char} :
    isSpelt chars = true ↔ (∃ value, Denotes chars value) ∨ NamesNoNumber chars := by
  have hsign : (∃ value, Denotes chars value) ↔ isUnsignedNumber (dropSign chars) = true := by
    rw [isUnsignedNumber_iff]
    constructor
    · rintro ⟨value, hdenotes⟩
      cases hdenotes with
      | unsigned hvalue => exact ⟨_, hvalue.dropSign_eq.symm ▸ hvalue⟩
      | positive hvalue | negative hvalue => exact ⟨_, hvalue⟩
    · unfold dropSign
      split
      case h_1 => exact fun ⟨value, hvalue⟩ => ⟨_, .positive hvalue⟩
      case h_2 => exact fun ⟨value, hvalue⟩ => ⟨_, .negative hvalue⟩
      case h_3 => exact fun ⟨value, hvalue⟩ => ⟨_, .unsigned hvalue⟩
  rw [isSpelt, Bool.or_eq_true, hsign, NamesNoNumber]

end SchemaScaffold.Decimal
