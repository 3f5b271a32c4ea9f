/-!
# Sets of code points

A property of the Unicode standard is a set of code points, and most of these sets are long runs
of neighbours. A set is written here by its switches: the code points at which membership turns
on or off, in ascending order. The module supplies membership only; the properties themselves
stand in one module each.
-/

namespace SchemaScaffold.Text

/-- A set of code points given by the points at which membership changes, in ascending order.
Before the first switch nothing belongs to it. -/
structure CodeSet where
  switches : List Nat
  deriving DecidableEq, Repr

namespace CodeSet

/-- A code point belongs to the set when an odd number of switches lies at or below it. -/
def contains (set : CodeSet) (code : Nat) : Bool :=
  (set.switches.takeWhile (· ≤ code)).length % 2 == 1

end CodeSet

end SchemaScaffold.Text
