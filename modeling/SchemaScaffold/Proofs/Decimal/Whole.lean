/-!
# Whole numbers in the decimal system

A whole number is spelt by decimal digits with or without a sign, and digits spell a number of any
size. The relation says which number a text spells, and the reader finds it without any bound; both
agree on all texts.
-/

namespace SchemaScaffold

/-- The characters spell a whole number: decimal digits, at least one, with or without a sign. -/
inductive SpellsWhole : List Char → Int → Prop
  | unsigned {digits : List Char} (hne : digits ≠ []) (hdigits : digits.all Char.isDigit = true) :
      SpellsWhole digits (Nat.ofDigitChars 10 digits 0)
  | positive {digits : List Char} (hne : digits ≠ []) (hdigits : digits.all Char.isDigit = true) :
      SpellsWhole ('+' :: digits) (Nat.ofDigitChars 10 digits 0)
  | negative {digits : List Char} (hne : digits ≠ []) (hdigits : digits.all Char.isDigit = true) :
      SpellsWhole ('-' :: digits) (-(Nat.ofDigitChars 10 digits 0 : Int))

/-- The number that digits write, if there are any and nothing else. -/
def digitsNumber? (digits : List Char) : Option Int :=
  if digits ≠ [] ∧ digits.all Char.isDigit then some (Nat.ofDigitChars 10 digits 0) else none

/-- The whole number that characters spell, however large it is. -/
def unboundedNumber? : List Char → Option Int
  | '-' :: digits => (digitsNumber? digits).map (- ·)
  | '+' :: digits => digitsNumber? digits
  | digits => digitsNumber? digits

/-- Digits write a number exactly when there are any and nothing else. -/
theorem digitsNumber?_eq_some_iff {digits : List Char} {n : Int} :
    digitsNumber? digits = some n ↔
      (digits ≠ [] ∧ digits.all Char.isDigit = true) ∧ Nat.ofDigitChars 10 digits 0 = n := by
  rw [digitsNumber?, Option.ite_none_right_eq_some, Option.some.injEq]

/-- Exactly the spelt numbers are read when there is no bound. -/
theorem unboundedNumber?_eq_some_iff {chars : List Char} {n : Int} :
    unboundedNumber? chars = some n ↔ SpellsWhole chars n := by
  constructor
  · intro hread
    unfold unboundedNumber? at hread
    split at hread
    case h_1 digits =>
      obtain ⟨value, hvalue, rfl⟩ := Option.map_eq_some_iff.mp hread
      obtain ⟨⟨hne, hdigits⟩, rfl⟩ := digitsNumber?_eq_some_iff.mp hvalue
      exact .negative hne hdigits
    case h_2 digits =>
      obtain ⟨⟨hne, hdigits⟩, rfl⟩ := digitsNumber?_eq_some_iff.mp hread
      exact .positive hne hdigits
    case h_3 =>
      obtain ⟨⟨hne, hdigits⟩, rfl⟩ := digitsNumber?_eq_some_iff.mp hread
      exact .unsigned hne hdigits
  · intro hspells
    cases hspells with
    | positive hne hdigits => exact digitsNumber?_eq_some_iff.mpr ⟨⟨hne, hdigits⟩, rfl⟩
    | negative hne hdigits =>
        rw [unboundedNumber?, digitsNumber?_eq_some_iff.mpr ⟨⟨hne, hdigits⟩, rfl⟩]
        rfl
    | unsigned hne hdigits =>
        -- A text of digits starts with no sign.
        unfold unboundedNumber?
        split
        case h_1 | h_2 =>
          exact absurd (List.all_eq_true.mp hdigits _ List.mem_cons_self) (by decide)
        case h_3 => exact digitsNumber?_eq_some_iff.mpr ⟨⟨hne, hdigits⟩, rfl⟩

end SchemaScaffold
