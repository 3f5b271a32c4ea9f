import Mathlib.Algebra.Group.Int.Defs
import Mathlib.Algebra.Group.Nat.Defs
import SchemaScaffold.Proofs.Decimal.Whole
import SchemaScaffold.Storage

/-!
# Numbers among the arguments of a type

The length, the precision and the scale of a type are numbers among its arguments. A number beyond
the range of an argument is moved to the end of the range, and without a number a usual one is
taken. But numbers are read into 64 bits first: one that does not fit there counts as none, so the
usual number replaces it instead of the end of the range. This is the only exception, and all three
share it.
-/

namespace SchemaScaffold

open Schema (ColumnType)

/-- The numbers of 64 bits with a sign. -/
def FitsIn64 (n : Int) : Prop := -2 ^ 63 ≤ n ∧ n < 2 ^ 63

instance : DecidablePred FitsIn64 := fun _ => instDecidableAnd

/-- Keeping what fits is looking whether it does. -/
theorem filter_fitsIn64 (digits : List Char) (n : Int) :
    (if digits ≠ [] ∧ digits.all Char.isDigit then (if FitsIn64 n then some n else none)
      else none) =
      (if digits ≠ [] ∧ digits.all Char.isDigit then some n else none).filter (FitsIn64 ·) := by
  split
  · rw [Option.filter_some]
    exact ite_congr (by simp) (fun _ => rfl) (fun _ => rfl)
  · rfl

/-- A text is read as the whole number that it spells, if this fits into 64 bits. -/
theorem wholeNumber?_eq_filter (text : String) :
    wholeNumber? text = (unboundedNumber? (Text.trimChars text.toList)).filter (FitsIn64 ·) := by
  have hmagnitude (digits : List Char) :
      digits.foldl (fun n c => n * 10 + (c.toNat - '0'.toNat)) 0 =
        Nat.ofDigitChars 10 digits 0 := by
    rw [Nat.ofDigitChars]
    congr 1
    funext n c
    rw [Nat.mul_comm]
  have hfits (n : Int) :
      (-0x8000000000000000 ≤ n ∧ n ≤ 0x7fffffffffffffff) ↔ FitsIn64 n := by
    unfold FitsIn64
    omega
  unfold wholeNumber?
  simp only [hmagnitude, hfits, filter_fitsIn64]
  split
  case h_1 digits hsign =>
    rw [hsign, unboundedNumber?, digitsNumber?, apply_ite (Option.map _)]
    rfl
  case h_2 digits hsign =>
    rw [hsign]
    rfl
  case h_3 hminus hplus =>
    rw [unboundedNumber?]
    · rfl
    · exact hminus
    · exact hplus

/-- The argument at a position denotes the number; white space around it does not matter. -/
def Schema.ColumnType.Denotes (type : ColumnType) (position : Nat) (n : Int) : Prop :=
  ∃ arg, type.arg? position = some arg ∧ SpellsWhole (Text.trimChars arg.toList) n

/-- The value is the number that the argument denotes, moved into the range from `least` to
`2 ^ 32 - 1` however far it lies outside; only where the argument is absent or denotes no whole
number, the value is the fallback. -/
structure Clamps (type : ColumnType) (position fallback least value : Nat) : Prop where
  moved : ∀ n, type.Denotes position n → (value : Int) = max (least : Int) (min n (2 ^ 32 - 1))
  absent : (∀ n, ¬type.Denotes position n) → value = fallback

/-- The argument at a position, if it is a whole number, fits into 64 bits. -/
def Schema.ColumnType.Fits (type : ColumnType) (position : Nat) : Prop :=
  ∀ n, type.Denotes position n → FitsIn64 n

/-- An argument that denotes a number leads to this number in the range, or to the fallback when it
does not fit into 64 bits. -/
theorem numericArgument_of_denotes {type : ColumnType} {position : Nat} {n : Int}
    (hdenotes : type.Denotes position n) (fallback least : Nat) :
    numericArgument type position fallback least =
      if FitsIn64 n then (max (least : Int) (min n (greatestArgument : Int))).toNat
      else fallback := by
  obtain ⟨arg, harg, hspells⟩ := hdenotes
  rw [numericArgument, harg, Option.bind_some, wholeNumber?_eq_filter,
    unboundedNumber?_eq_some_iff.mpr hspells, Option.filter_some]
  by_cases hfits : FitsIn64 n
  · rw [if_pos (decide_eq_true hfits), if_pos hfits]
  · rw [if_neg (by simpa using hfits), if_neg hfits]

/-- An argument that denotes no number leads to the fallback. -/
theorem numericArgument_of_not_denotes {type : ColumnType} {position : Nat}
    (hnone : ∀ n, ¬type.Denotes position n) (fallback least : Nat) :
    numericArgument type position fallback least = fallback := by
  have hunread : (type.arg? position).bind wholeNumber? = none := by
    rw [Option.bind_eq_none_iff]
    intro arg harg
    rw [wholeNumber?_eq_filter, Option.filter_eq_none_iff]
    intro n hread
    exact absurd ⟨arg, harg, unboundedNumber?_eq_some_iff.mp hread⟩ (hnone n)
  rw [numericArgument, hunread]

/-- A fallback within the range, but at neither of its ends, shows where a number was replaced: the
argument is moved into the range exactly when it fits into 64 bits, and is replaced otherwise. -/
theorem clamps_numericArgument_iff (type : ColumnType) (position fallback least : Nat)
    (hlow : least < fallback) (hhigh : fallback < greatestArgument) :
    (Clamps type position fallback least (numericArgument type position fallback least) ↔
      type.Fits position) ∧
    (¬type.Fits position → numericArgument type position fallback least = fallback) := by
  rw [greatestArgument] at hhigh
  constructor
  · constructor
    · intro hclamps n hdenotes
      apply Decidable.byContradiction
      intro hbeyond
      have hmoved := hclamps.moved n hdenotes
      rw [numericArgument_of_denotes hdenotes, if_neg hbeyond] at hmoved
      unfold FitsIn64 at hbeyond
      omega
    · intro hfits
      constructor
      · intro n hdenotes
        rw [numericArgument_of_denotes hdenotes, if_pos (hfits n hdenotes), greatestArgument]
        omega
      · intro hnone
        exact numericArgument_of_not_denotes hnone fallback least
  · intro hbeyond
    obtain ⟨n, hn⟩ := Classical.not_forall.mp hbeyond
    obtain ⟨hdenotes, hunfit⟩ := Classical.not_imp.mp hn
    rw [numericArgument_of_denotes hdenotes, if_neg hunfit]

/-- For every type, the length and the precision are its first argument moved into the range from 1
to `2 ^ 32 - 1`, and the scale is its second one moved into the range from 0, exactly when this
argument, if it is a whole number at all, fits into 64 bits; a whole number that does not is
replaced as if it were missing. -/
theorem arguments_clamped_iff_fit (type : ColumnType) :
    (Clamps type 0 255 1 (lengthOf type) ↔ type.Fits 0) ∧
      (Clamps type 0 8 1 (precisionOf type) ↔ type.Fits 0) ∧
      (Clamps type 1 2 0 (scaleOf type) ↔ type.Fits 1) ∧
      (¬type.Fits 0 → lengthOf type = 255 ∧ precisionOf type = 8) ∧
      (¬type.Fits 1 → scaleOf type = 2) := by
  have hlength := clamps_numericArgument_iff type 0 255 1 (by decide) (by decide)
  have hprecision := clamps_numericArgument_iff type 0 8 1 (by decide) (by decide)
  have hscale := clamps_numericArgument_iff type 1 2 0 (by decide) (by decide)
  exact ⟨hlength.1, hprecision.1, hscale.1,
    fun hbeyond => ⟨hlength.2 hbeyond, hprecision.2 hbeyond⟩, hscale.2⟩

-- The greatest number of 64 bits is moved into the range, and the next one is replaced.
example :
    (["9223372036854775807", "9223372036854775808", "-9223372036854775809", " +0 ", "-"].map
      fun arg => lengthOf { name := "varchar", args := [arg] }) =
      [4294967295, 255, 255, 1, 255] := by
  decide +kernel

end SchemaScaffold
