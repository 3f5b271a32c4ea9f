import SchemaScaffold.Decimal.Binary64

/-!
# The fewest digits that read back

Every finite binary64 value stands for the interval of reals that round to it. Its shortest
decimal is the point with the fewest digits in that interval, and of several the one nearest to
the value. The search goes through the grids of one digit, two digits and so on, and looks at the
two neighbours of the value on each: when a grid has a point in the interval, so is one of these.
-/

namespace SchemaScaffold.Decimal

/-- A positive decimal `0.d₁d₂… * 10 ^ point`, by its digits and the place of its point. The
first digit is not zero, and neither is the last. -/
structure Digits where
  digits : List Char
  point : Int
  deriving DecidableEq, Repr

/-- The interval of a value in units of `2 ^ (exponent - 2)`: its lower end, the value, its upper
end, and whether the ends belong to it. Below a power of two the values lie twice as close. -/
structure Interval where
  lower : Nat
  value : Nat
  upper : Nat
  closed : Bool
  exponent : Int

/-- The reals that round to a value. -/
def Interval.around (value : Binary64.Magnitude) : Interval :=
  let m := value.significand
  let closerBelow := m = Nat.pow 2 52 ∧ value.exponent ≠ Binary64.leastExponent
  { lower := if closerBelow then 4 * m - 1 else 4 * m - 2
    value := 4 * m
    upper := 4 * m + 2
    closed := m % 2 = 0
    exponent := value.exponent - 2 }

/-- A power as a factor above and a factor below the fraction line. -/
def powerFactors (base : Nat) (power : Int) : Nat × Nat :=
  (Nat.pow base power.toNat, Nat.pow base (-power).toNat)

/-- The multiple of `10 ^ place` in the interval that is nearest to the value, counted in such
multiples, if there is one; a tie goes to the even one. -/
def Interval.onGrid? (interval : Interval) (place : Int) : Option Nat :=
  let (twoUp, twoDown) := powerFactors 2 interval.exponent
  let (tenUp, tenDown) := powerFactors 10 place
  let scale (x : Nat) : Nat := x * twoUp * tenDown
  let unit := twoDown * tenUp
  let value := scale interval.value
  let below := value / unit
  let above := below + 1
  let admits (num den : Nat) : Bool := if interval.closed then num ≤ den else num < den
  let belowFits := admits (scale interval.lower) (below * unit)
  let aboveFits := admits (above * unit) (scale interval.upper)
  let down := value - below * unit
  let up := above * unit - value
  if belowFits && aboveFits then
    some (if down < up ∨ (down = up ∧ below % 2 = 0) then below else above)
  else if belowFits then some below
  else if aboveFits then some above
  else none

/-- The place of the first digit of a positive value: the power of ten at or below it. -/
def leadingPlace (value : Binary64.Magnitude) : Int :=
  let guess := (((Nat.log2 value.significand : Int) + value.exponent) * 30103) / 100000 - 1
  let reaches (place : Int) : Bool :=
    let (twoUp, twoDown) := powerFactors 2 value.exponent
    let (tenUp, tenDown) := powerFactors 10 place
    decide (twoDown * tenUp ≤ value.significand * twoUp * tenDown)
  if reaches (guess + 2) then guess + 2
  else if reaches (guess + 1) then guess + 1
  else guess

/-- The shortest decimal of a positive value. -/
def shortest (value : Binary64.Magnitude) : Digits :=
  let interval := Interval.around value
  let lead := leadingPlace value
  let found := (List.range 17).findSome? fun (extra : Nat) =>
    let place := lead - extra
    (interval.onGrid? place).map fun count => (count, place)
  let (count, place) := found.getD (value.significand, 0)
  let digits := Nat.toDigits 10 count
  { digits := (digits.reverse.dropWhile (· == '0')).reverse
    point := place + digits.length }

end SchemaScaffold.Decimal
