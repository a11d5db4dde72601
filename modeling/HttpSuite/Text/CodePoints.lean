/-!
# Sets of code points

A set of characters is kept as the increasing list of its boundaries: the first number opens a run,
the second is the first code point past it, and so on. A character belongs to the set iff an odd
number of boundaries are at most its code point.
-/

namespace HttpSuite.Text

/-- A set of code points, by the increasing list of the points where membership changes. -/
structure CodePoints where
  bounds : List Nat

/-- Membership of a code point: the number of boundaries passed is odd. -/
def CodePoints.containsPoint (set : CodePoints) (n : Nat) : Bool :=
  (set.bounds.takeWhile (· ≤ n)).length % 2 == 1

/-- Membership of a character. -/
def CodePoints.contains (set : CodePoints) (c : Char) : Bool :=
  set.containsPoint c.toNat

end HttpSuite.Text
