import Mathlib.Data.List.Induction
import Mathlib.Tactic.FieldSimp
import Mathlib.Tactic.Ring
import SchemaScaffold.Proofs.Decimal.Value

/-!
# Numeric literals

A number in generated code is read by the rules of the language that it is written in: digits alone
are an integer, and behind a leading zero they are octal; a point or an exponent makes a decimal
number of them, whatever they start with; and a sign may stand in front. The value is the exact one.
Hexadecimal and binary integers and digits in groups are not read here.

`numericLiteral?_eq_some_iff` compares this with the decimal value of the same text: they differ
where digits behind a leading zero say more than seven, and nowhere else.
-/

namespace SchemaScaffold.Php

open Decimal (Denotes DenotesUnsigned Exponent Significand dropSign)

/-- The digits that may stand behind a leading zero. -/
def isOctalDigit (c : Char) : Bool := c.isDigit && decide (c.toNat - '0'.toNat < 8)

/-- The value of digits without a point and an exponent. -/
def integerLiteral? : List Char → Option ℚ
  | [] => none
  | '0' :: c :: rest =>
    if (c :: rest).all isOctalDigit then some (Nat.ofDigitChars 8 (c :: rest) 0) else none
  | digits => some (Nat.ofDigitChars 10 digits 0)

/-- The value of an exponent, which may be missing. -/
def exponent? : List Char → Option ℤ
  | [] => some 0
  | mark :: rest => if mark = 'e' ∨ mark = 'E' then unboundedNumber? rest else none

/-- The value of digits with a point or an exponent, given how many of them stand behind the point
and what follows the digits. -/
def floatingLiteral? (digits : List Char) (behind : Nat) (scale : List Char) : Option ℚ :=
  if digits = [] then none
  else (exponent? scale).map fun exponent =>
    (Nat.ofDigitChars 10 digits 0 : ℚ) * 10 ^ (exponent - (behind : ℤ))

/-- The value of a literal without a sign. -/
def unsignedLiteral? (chars : List Char) : Option ℚ :=
  let whole := chars.takeWhile Char.isDigit
  match chars.dropWhile Char.isDigit with
  | [] => integerLiteral? whole
  | '.' :: rest =>
    let fraction := rest.takeWhile Char.isDigit
    floatingLiteral? (whole ++ fraction) fraction.length (rest.dropWhile Char.isDigit)
  | scale => floatingLiteral? whole 0 scale

/-- The value of a literal with or without a sign. -/
def numericLiteral? : List Char → Option ℚ
  | '-' :: literal => (unsignedLiteral? literal).map (- ·)
  | '+' :: literal => unsignedLiteral? literal
  | literal => unsignedLiteral? literal

/-- Digits are worth no more in the octal system than in the decimal one, and the same only when
that is less than eight. -/
theorem ofDigitChars_octal {digits : List Char} (hdigits : digits.all isOctalDigit = true) :
    Nat.ofDigitChars 8 digits 0 ≤ Nat.ofDigitChars 10 digits 0 ∧
      (Nat.ofDigitChars 8 digits 0 = Nat.ofDigitChars 10 digits 0 ↔
        Nat.ofDigitChars 10 digits 0 < 8) := by
  induction digits using List.reverseRecOn with
  | nil => simp
  | append_singleton front c ih =>
      rw [List.all_append, Bool.and_eq_true] at hdigits
      obtain ⟨hfront, hc⟩ := hdigits
      have hdigit : c.toNat - '0'.toNat < 8 := by
        simp only [List.all_cons, List.all_nil, Bool.and_true, isOctalDigit, Bool.and_eq_true,
          decide_eq_true_eq] at hc
        exact hc.2
      have hle := (ih hfront).1
      simp only [Nat.ofDigitChars_append, Nat.ofDigitChars_cons, Nat.ofDigitChars_nil]
      omega

/-- Digits of which one is no octal digit are worth at least eight. -/
theorem le_ofDigitChars_of_not_octal {digits : List Char}
    (hdigits : digits.all Char.isDigit = true) (hother : ¬digits.all isOctalDigit = true) :
    8 ≤ Nat.ofDigitChars 10 digits 0 := by
  induction digits using List.reverseRecOn with
  | nil => exact absurd rfl hother
  | append_singleton front c ih =>
      rw [List.all_append, Bool.and_eq_true] at hdigits hother
      obtain ⟨hfront, hc⟩ := hdigits
      simp only [Nat.ofDigitChars_append, Nat.ofDigitChars_cons, Nat.ofDigitChars_nil]
      by_cases hoctal : front.all isOctalDigit = true
      · have hlast : ¬isOctalDigit c = true := by simpa [hoctal] using hother
        have hbig : 8 ≤ c.toNat - '0'.toNat := by
          simp only [List.all_cons, List.all_nil, Bool.and_true] at hc
          simpa [isOctalDigit, hc] using hlast
        omega
      · have hfar := ih hfront hoctal
        omega

/-- Behind a leading zero, digits are worth what they are in the decimal system exactly when that is
less than eight. -/
theorem integerLiteral?_eq_some_iff {digits : List Char} (hne : digits ≠ [])
    (hdigits : digits.all Char.isDigit = true) :
    integerLiteral? digits = some (Nat.ofDigitChars 10 digits 0 : ℚ) ↔
      ∀ rest, digits = '0' :: rest → Nat.ofDigitChars 10 rest 0 < 8 := by
  unfold integerLiteral?
  split
  case h_1 => exact absurd rfl hne
  case h_2 c rest =>
    rw [List.all_cons, Bool.and_eq_true] at hdigits
    have hvalue : Nat.ofDigitChars 10 ('0' :: c :: rest) 0 = Nat.ofDigitChars 10 (c :: rest) 0 := by
      rw [Nat.ofDigitChars_cons]
      rfl
    have hlead : (∀ tail, '0' :: c :: rest = '0' :: tail → Nat.ofDigitChars 10 tail 0 < 8) ↔
        Nat.ofDigitChars 10 (c :: rest) 0 < 8 :=
      ⟨fun h => h _ rfl, fun h tail htail => (List.cons.inj htail).2 ▸ h⟩
    rw [hvalue, hlead]
    split
    case isTrue hoctal =>
      rw [Option.some.injEq, Nat.cast_inj]
      exact (ofDigitChars_octal hoctal).2
    case isFalse hother =>
      have hbig := le_ofDigitChars_of_not_octal hdigits.2 hother
      exact iff_of_false (by simp) (by omega)
  case h_3 hother =>
    apply iff_of_true rfl
    rintro rest rfl
    cases rest with
    | nil => decide
    | cons c rest => exact absurd rfl (hother c rest)

/-- Exponents are read as what they denote. -/
theorem exponent?_of_exponent {scale : List Char} {exponent : ℤ}
    (hexponent : Exponent scale exponent) : exponent? scale = some exponent := by
  cases hexponent with
  | none => rfl
  | given hmark hspells =>
      rw [exponent?, if_pos hmark]
      exact unboundedNumber?_eq_some_iff.mpr hspells

/-- Digits with a point or an exponent are read as the number that they denote. -/
theorem floatingLiteral?_of_exponent {digits scale : List Char} {exponent : ℤ} (hne : digits ≠ [])
    (hexponent : Exponent scale exponent) (behind : Nat) :
    floatingLiteral? digits behind scale =
      some ((Nat.ofDigitChars 10 digits 0 : ℚ) * 10 ^ (exponent - (behind : ℤ))) := by
  rw [floatingLiteral?, if_neg hne, exponent?_of_exponent hexponent, Option.map_some]

/-- Moving the point to the end of the digits is a matter of the exponent. -/
theorem point_mul_zpow (whole fraction : List Char) (exponent : ℤ) :
    ((Nat.ofDigitChars 10 whole 0 : ℚ) + Nat.ofDigitChars 10 fraction 0 / 10 ^ fraction.length) *
        10 ^ exponent =
      (Nat.ofDigitChars 10 (whole ++ fraction) 0 : ℚ) *
        10 ^ (exponent - (fraction.length : ℤ)) := by
  have hdigits : Nat.ofDigitChars 10 (whole ++ fraction) 0 =
      10 ^ fraction.length * Nat.ofDigitChars 10 whole 0 + Nat.ofDigitChars 10 fraction 0 := by
    rw [Nat.ofDigitChars_append, Nat.ofDigitChars_eq_ofDigitChars_zero]
  rw [hdigits, zpow_sub₀ (by norm_num), zpow_natCast]
  push_cast
  field_simp

/-- The number has only digits, the first of them a needless zero, and is greater than seven. -/
def LooksOctal (chars : List Char) : Prop :=
  ∃ digits, dropSign chars = '0' :: digits ∧ digits.all Char.isDigit = true ∧
    8 ≤ Nat.ofDigitChars 10 digits 0

/-- A number with a point or an exponent does not look octal. -/
theorem not_looksOctal_of_mem {chars : List Char} {c : Char} (hc : c ∈ dropSign chars)
    (hother : c.isDigit = false) : ¬LooksOctal chars := by
  rintro ⟨digits, hdigits, hall, -⟩
  rw [hdigits] at hc
  have hdigit : ∀ d ∈ '0' :: digits, d.isDigit = true := by
    simpa using List.all_eq_true.mp hall
  exact absurd (hdigit c hc) (by simp [hother])

/-- A number without a sign is read as its value unless it looks octal. -/
theorem unsignedLiteral?_eq_some_iff {chars : List Char} {value : ℚ}
    (hvalue : DenotesUnsigned chars value) :
    unsignedLiteral? chars = some value ↔ ¬LooksOctal chars := by
  have hsign := hvalue.dropSign_eq
  obtain ⟨digits, scale, significand, exponent, hdigits, hexponent, rfl, rfl⟩ := hvalue
  unfold unsignedLiteral?
  cases hdigits with
  | whole hne hdigits =>
      obtain ⟨htake, hdrop⟩ := Decimal.span_digits hdigits hexponent.not_isDigit_head
      simp only [htake, hdrop]
      cases hexponent with
      | none =>
          rw [zpow_zero, mul_one, integerLiteral?_eq_some_iff hne hdigits, LooksOctal, hsign,
            List.append_nil]
          constructor
          · rintro hsmall ⟨rest, hrest, -, hbig⟩
            exact absurd (hsmall rest hrest) (Nat.not_lt.mpr hbig)
          · rintro hnone rest rfl
            rw [List.all_cons, Bool.and_eq_true] at hdigits
            exact Nat.lt_of_not_le fun hbig => hnone ⟨rest, rfl, hdigits.2, hbig⟩
      | given hmark hspells =>
          rename_i mark scale
          have hscale : floatingLiteral? digits 0 (mark :: scale) =
              some ((Nat.ofDigitChars 10 digits 0 : ℚ) * 10 ^ exponent) := by
            rw [floatingLiteral?_of_exponent hne (.given hmark hspells), Nat.cast_zero, sub_zero]
          have hletter : mark.isDigit = false := by rcases hmark with rfl | rfl <;> rfl
          refine iff_of_true ?_ (not_looksOctal_of_mem (c := mark) ?_ hletter)
          · rw [← hscale]
            split
            case h_1 heq => cases heq
            case h_2 heq =>
              obtain ⟨rfl, -⟩ := List.cons.inj heq
              rcases hmark with hmark | hmark <;> cases hmark
            case h_3 => rfl
          · rw [hsign]
            simp
  | @point whole fraction hwhole hfraction hne =>
      obtain ⟨htake, hdrop⟩ := @Decimal.span_digits whole ('.' :: (fraction ++ scale)) hwhole
        fun c hc => Option.some.inj hc ▸ rfl
      obtain ⟨htakeFraction, hdropFraction⟩ :=
        Decimal.span_digits hfraction hexponent.not_isDigit_head
      have hsome : whole ++ fraction ≠ [] := by simpa [imp_iff_not_or] using hne
      have hpoint : '.' ∈ dropSign (whole ++ '.' :: fraction ++ scale) := by
        rw [hsign]
        simp
      refine iff_of_true ?_ (not_looksOctal_of_mem hpoint rfl)
      rw [point_mul_zpow]
      simp only [List.append_assoc, List.cons_append, htake, hdrop, htakeFraction, hdropFraction]
      exact floatingLiteral?_of_exponent hsome hexponent _

/-- A number is read as its decimal value unless it looks octal. -/
theorem numericLiteral?_eq_some_iff {chars : List Char} {value : ℚ} (hvalue : Denotes chars value) :
    numericLiteral? chars = some value ↔ ¬LooksOctal chars := by
  have hbehind {rest : List Char} {value : ℚ} (hvalue : DenotesUnsigned rest value) {sign : Char}
      (hsign : dropSign (sign :: rest) = rest) : LooksOctal (sign :: rest) ↔ LooksOctal rest := by
    rw [LooksOctal, LooksOctal, hsign, hvalue.dropSign_eq]
  cases hvalue with
  | unsigned hvalue =>
      have hread : numericLiteral? chars = unsignedLiteral? chars := by
        obtain ⟨c, rest, rfl, hc⟩ := hvalue.exists_head
        unfold numericLiteral?
        split
        case h_1 heq | h_2 heq =>
          obtain ⟨rfl, -⟩ := List.cons.inj heq
          exact absurd hc (by decide)
        case h_3 => rfl
      rw [hread, unsignedLiteral?_eq_some_iff hvalue]
  | positive hvalue =>
      rw [numericLiteral?, unsignedLiteral?_eq_some_iff hvalue, hbehind hvalue rfl]
  | @negative rest value hvalue =>
      have hnegative : numericLiteral? ('-' :: rest) = some (-value) ↔
          unsignedLiteral? rest = some value := by
        rw [numericLiteral?]
        cases unsignedLiteral? rest with
        | none => simp
        | some found => simp
      rw [hnegative, unsignedLiteral?_eq_some_iff hvalue, hbehind hvalue rfl]

/-- With a sign and without one, the same texts are literals. -/
theorem numericLiteral?_eq_none_iff (chars : List Char) :
    numericLiteral? chars = none ↔ unsignedLiteral? (dropSign chars) = none := by
  unfold numericLiteral? dropSign
  split
  case h_1 => exact Option.map_eq_none_iff
  case h_2 => exact Iff.rfl
  case h_3 hminus hplus =>
    split
    case h_1 rest => exact absurd rfl (hplus rest)
    case h_2 rest => exact absurd rfl (hminus rest)
    case h_3 => exact Iff.rfl

/-- A text that starts with neither a digit nor a point is no literal without a sign. -/
theorem unsignedLiteral?_of_head {c : Char} (rest : List Char) (hdigit : c.isDigit = false)
    (hpoint : c ≠ '.') : unsignedLiteral? (c :: rest) = none := by
  have htake : (c :: rest).takeWhile Char.isDigit = [] :=
    List.takeWhile_cons_of_neg (by simp [hdigit])
  have hdrop : (c :: rest).dropWhile Char.isDigit = c :: rest :=
    List.dropWhile_cons_of_neg (by simp [hdigit])
  unfold unsignedLiteral?
  simp only [htake, hdrop]
  split
  case h_1 heq => cases heq
  case h_2 heq => exact absurd (List.cons.inj heq).1 hpoint
  case h_3 => rfl

/-- Digits have no small form. -/
theorem toLower_of_isDigit {c : Char} (hdigit : c.isDigit = true) : c.toLower = c := by
  rw [Char.isDigit, Bool.and_eq_true, decide_eq_true_eq, decide_eq_true_eq] at hdigit
  exact dif_neg fun hcapital => absurd (UInt32.le_trans hcapital.1 hdigit.2) (by decide)

/-- The words for infinity and for not-a-number are no literals. -/
theorem numericLiteral?_of_namesNoNumber {chars : List Char}
    (hnames : Decimal.NamesNoNumber chars) : numericLiteral? chars = none := by
  rw [numericLiteral?_eq_none_iff]
  rw [Decimal.NamesNoNumber, List.contains_iff_mem] at hnames
  have hletters : ∀ word ∈ Decimal.specialWords, word.toList ≠ [] ∧
      word.toList.all (fun c => c.isAlpha && !c.isDigit) = true := by decide +kernel
  obtain ⟨hne, hall⟩ := hletters _ hnames
  rw [String.toList_ofList] at hne hall
  cases hbody : dropSign chars with
  | nil => exact absurd (by rw [hbody]; rfl) hne
  | cons c rest =>
      rw [hbody, List.map_cons, List.all_cons, Bool.and_eq_true, Bool.and_eq_true] at hall
      -- Digits and points are their own small forms, and the words have letters only.
      apply unsignedLiteral?_of_head
      · cases hdigit : c.isDigit with
        | false => rfl
        | true =>
            rw [toLower_of_isDigit hdigit, hdigit] at hall
            exact absurd hall.1.2 (by decide)
      · rintro rfl
        exact absurd hall.1.1 (by decide)

end SchemaScaffold.Php
