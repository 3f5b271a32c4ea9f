import SchemaScaffold.Json.Printer

/-!
# The characters of written numbers

Whatever a number of JSON is, its text is not empty and consists of digits, signs, points and the
letter of the exponent. This is all that readers of generated text need to know of it: such a text
holds no quote, no blank and no punctuation.
-/

namespace SchemaScaffold

/-- The characters that numbers are written with. -/
def isNumeralChar (c : Char) : Bool :=
  c.isDigit || c == '+' || c == '-' || c == '.' || c == 'e'

/-- A text made of the characters of numbers only. -/
def IsNumeral (chars : List Char) : Prop := ∀ c ∈ chars, isNumeralChar c = true

namespace IsNumeral

/-- The empty text holds no other character. -/
theorem nil : IsNumeral [] := by
  intro c hc
  simp at hc

/-- One character of a number before others. -/
theorem cons {c : Char} {chars : List Char} (hc : isNumeralChar c = true)
    (hchars : IsNumeral chars) : IsNumeral (c :: chars) := by
  intro d hd
  rcases List.mem_cons.mp hd with rfl | hd
  · exact hc
  · exact hchars d hd

/-- Numerals one after the other. -/
theorem append {first second : List Char} (hfirst : IsNumeral first)
    (hsecond : IsNumeral second) : IsNumeral (first ++ second) := by
  intro c hc
  rcases List.mem_append.mp hc with hc | hc
  · exact hfirst c hc
  · exact hsecond c hc

/-- Part of a numeral. -/
theorem subset {part chars : List Char} (hchars : IsNumeral chars) (hpart : part ⊆ chars) :
    IsNumeral part :=
  fun c hc => hchars c (hpart hc)

/-- The digits of a natural number. -/
theorem toDigits (n : Nat) : IsNumeral (Nat.toDigits 10 n) := by
  intro c hc
  have hdigit := Nat.isDigit_of_mem_toDigits (by decide) (by decide) hc
  simp [isNumeralChar, hdigit]

/-- Zeros that fill up a number. -/
theorem zeros (n : Nat) : IsNumeral (List.replicate n '0') := by
  intro c hc
  obtain rfl := List.eq_of_mem_replicate hc
  decide

end IsNumeral

/-- The shortest digits of a value are digits. -/
theorem Decimal.isNumeral_shortest (value : Binary64.Magnitude) :
    IsNumeral (Decimal.shortest value).digits := by
  intro c hc
  simp only [Decimal.shortest, List.mem_reverse] at hc
  have hmem := List.mem_reverse.mp ((List.dropWhile_suffix _).subset hc)
  exact IsNumeral.toDigits _ c hmem

/-- Any layout of digits, with or without an exponent, is a numeral. -/
theorem BinaryFormat.isNumeral_write (format : BinaryFormat) {decimal : Decimal.Digits}
    (hdigits : IsNumeral decimal.digits) : IsNumeral (format.write decimal) := by
  have htake (n : Nat) : IsNumeral (decimal.digits.take n) := hdigits.subset (List.take_subset _ _)
  have hdrop (n : Nat) : IsNumeral (decimal.digits.drop n) := hdigits.subset (List.drop_subset _ _)
  have hzero : IsNumeral ['0'] := IsNumeral.cons (by decide) IsNumeral.nil
  have hpoint : IsNumeral ['.'] := IsNumeral.cons (by decide) IsNumeral.nil
  simp only [BinaryFormat.write]
  split
  · split
    · exact ((hzero.append hpoint).append (IsNumeral.zeros _)).append hdigits
    · refine (((htake _).append (IsNumeral.zeros _)).append hpoint).append ?_
      split
      · exact hzero
      · exact hdrop _
  · refine (((htake _).append ?_).append ?_).append (IsNumeral.toDigits _)
    · split
      · exact IsNumeral.nil
      · exact IsNumeral.cons (by decide) (hdrop _)
    · refine IsNumeral.cons (by decide) (IsNumeral.cons ?_ IsNumeral.nil)
      split <;> decide

/-- No layout is empty: there is a point or the letter of an exponent in it. -/
theorem BinaryFormat.write_ne_nil (format : BinaryFormat) (decimal : Decimal.Digits) :
    format.write decimal ≠ [] := by
  simp only [BinaryFormat.write]
  split
  · split <;> simp
  · simp

/-- The text of a natural number is a numeral. -/
theorem isNumeral_natRepr (n : Nat) : IsNumeral n.repr.toList := by
  rw [Nat.toList_repr]
  exact IsNumeral.toDigits n

/-- The text of a number is a numeral. -/
theorem JsonNumber.isNumeral_render (number : JsonNumber) :
    IsNumeral number.render.toList := by
  cases number with
  | integer value =>
      rw [JsonNumber.render, Int.toString_eq_repr, Int.repr_eq_if]
      split
      · exact isNumeral_natRepr _
      · rw [String.toList_append]
        exact (isNumeral_natRepr _).cons (by decide)
  | binary value =>
      have hbody : IsNumeral (if value.isZero then ['0', '.', '0']
          else JsonNumber.format.write (Decimal.shortest value.magnitude)) := by
        split
        · exact IsNumeral.cons (by decide) (IsNumeral.cons (by decide)
            (IsNumeral.cons (by decide) IsNumeral.nil))
        · exact JsonNumber.format.isNumeral_write (Decimal.isNumeral_shortest _)
      simp only [JsonNumber.render, Binary64.render, String.toList_ofList]
      split
      · exact hbody.cons (by decide)
      · exact hbody

/-- The text of a number is not empty. -/
theorem JsonNumber.render_ne_empty (number : JsonNumber) : number.render ≠ "" := by
  cases number with
  | integer value =>
      rw [JsonNumber.render, Int.toString_eq_repr, Int.repr_eq_if]
      split
      · exact Nat.repr_ne_empty
      · simp
  | binary value =>
      have hbody : (if value.isZero then ['0', '.', '0']
          else JsonNumber.format.write (Decimal.shortest value.magnitude)) ≠ [] := by
        split
        · simp
        · exact JsonNumber.format.write_ne_nil _
      simp only [JsonNumber.render, Binary64.render]
      split
      · simp
      · simpa using hbody

end SchemaScaffold
