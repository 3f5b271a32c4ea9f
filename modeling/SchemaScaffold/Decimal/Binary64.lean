/-!
# Finite binary64 numbers

The finite values of the 64-bit floating-point format, held exactly: a sign, and a significand
times a power of two. Keeping them as whole numbers makes rounding ordinary arithmetic. A number
written in decimal is read in steps that each round, so its value may miss the nearest one by the
last bit; the steps are spelt out at `ofDecimal?`. Infinities and not-a-number are left out.
-/

namespace SchemaScaffold

/-- A finite value of the 64-bit format. The significand has 53 bits, or fewer when the exponent
is the least one, so every value but zero has one form; zero comes with both signs. -/
structure Binary64 where
  negative : Bool
  significand : Nat
  exponent : Int
  deriving DecidableEq, Repr

namespace Binary64

/-- The least exponent of the format. -/
def leastExponent : Int := -1074

/-- The greatest exponent of the format. -/
def greatestExponent : Int := 971

/-- The value without its sign. -/
structure Magnitude where
  significand : Nat
  exponent : Int
  deriving DecidableEq, Repr

namespace Magnitude

/-- Zero. -/
def zero : Magnitude := ⟨0, leastExponent⟩

/-- A quotient of whole numbers rounded to the nearest whole number, a tie to the even one. -/
def roundQuotient (num den : Nat) : Nat :=
  let quotient := num / den
  let twice := 2 * (num % den)
  if twice < den ∨ (twice = den ∧ quotient % 2 = 0) then quotient else quotient + 1

/-- A quotient `num / (den * 2 ^ exponent)` as a numerator and a denominator. -/
def shifted (num den : Nat) (exponent : Int) : Nat × Nat :=
  (num * Nat.pow 2 (-exponent).toNat, den * Nat.pow 2 exponent.toNat)

/-- The exponent at which a positive quotient has 53 bits, or the least one. -/
def exponentOf (num den : Nat) : Int :=
  let guess : Int := (Nat.log2 num : Int) - (Nat.log2 den : Int) - 53
  let (n, d) := shifted num den guess
  max leastExponent (if n / d < Nat.pow 2 53 then guess else guess + 1)

/-- The value nearest to a quotient, or nothing when it lies beyond the greatest one. -/
def ofQuotient? (num den : Nat) : Option Magnitude :=
  if num = 0 then some zero
  else
    let exponent := exponentOf num den
    let (n, d) := shifted num den exponent
    let rounded := roundQuotient n d
    let result : Magnitude :=
      if rounded = Nat.pow 2 53 then ⟨Nat.pow 2 52, exponent + 1⟩ else ⟨rounded, exponent⟩
    if result.exponent ≤ greatestExponent then some result else none

/-- The product of two values, rounded. -/
def mul? (a b : Magnitude) : Option Magnitude :=
  let (n, d) := shifted (a.significand * b.significand) 1 (-(a.exponent + b.exponent))
  ofQuotient? n d

/-- The quotient of two values, rounded; the divisor is not zero. -/
def div? (a b : Magnitude) : Option Magnitude :=
  let (n, d) := shifted a.significand b.significand (b.exponent - a.exponent)
  ofQuotient? n d

/-- The greatest power of ten that the format holds is the 308th. -/
def greatestTenPower : Nat := 308

/-- A power of ten, rounded. -/
def tenPower? (power : Nat) : Option Magnitude := ofQuotient? (Nat.pow 10 power) 1

/-- Divide by the greatest power of ten so many times, as long as something is left. -/
def divGreatestTenPower? : Nat → Magnitude → Option Magnitude
  | 0, value => some value
  | times + 1, value =>
    if value.significand = 0 then some value
    else ((tenPower? greatestTenPower).bind value.div?).bind (divGreatestTenPower? times)

/-- Divide by a positive power of ten, by at most the greatest one at a time. -/
def divTenPower? (value : Magnitude) (power : Nat) : Option Magnitude := do
  let times := (power - 1) / greatestTenPower
  let rest ← divGreatestTenPower? times value
  let divisor ← tenPower? (power - times * greatestTenPower)
  rest.div? divisor

/-- Multiply by a power of ten; beyond the greatest one only zero has a value. -/
def mulTenPower? (value : Magnitude) (power : Nat) : Option Magnitude :=
  if power ≤ greatestTenPower then (tenPower? power).bind value.mul?
  else if value.significand = 0 then some value
  else none

end Magnitude

/-- The value with a sign. -/
def ofMagnitude (negative : Bool) (value : Magnitude) : Binary64 :=
  ⟨negative, value.significand, value.exponent⟩

/-- The value without its sign. -/
def magnitude (value : Binary64) : Magnitude := ⟨value.significand, value.exponent⟩

/-- Read `digits * 10 ^ power`: the digits are rounded first, then the result is multiplied or
divided by the power of ten, which is rounded too. Nothing comes of a number that is too great. -/
def ofDecimal? (negative : Bool) (digits : Nat) (power : Int) : Option Binary64 := do
  let whole ← Magnitude.ofQuotient? digits 1
  let value ← if power < 0 then whole.divTenPower? (-power).toNat
    else whole.mulTenPower? power.toNat
  return ofMagnitude negative value

/-- Zero of either sign. -/
def isZero (value : Binary64) : Bool := value.significand == 0

/-- The zero with a sign. -/
def signedZero (negative : Bool) : Binary64 := ofMagnitude negative Magnitude.zero

end Binary64

end SchemaScaffold
