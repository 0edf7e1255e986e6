/-!
# Sets of code points

A set of code points is kept as the ascending list of places where membership changes: a code
point belongs to the set iff an odd number of edges are at or below it.
-/

namespace DocAccess.Text

/-- A set of code points, given by its edges in ascending order. -/
structure CodeSet where
  edges : Array Nat

namespace CodeSet

/-- The number of edges in `[low, high)` and below `low` that are at most `point`, by bisection. -/
def rank (edges : Array Nat) (point : Nat) : Nat → Nat → Nat → Nat
  | 0, low, _ => low
  | fuel + 1, low, high =>
      if low < high then
        let middle := (low + high) / 2
        if edges.getD middle 0 ≤ point then rank edges point fuel (middle + 1) high
        else rank edges point fuel low middle
      else low

/-- Membership of a code point. -/
def contains (set : CodeSet) (point : Nat) : Bool :=
  rank set.edges point set.edges.size 0 set.edges.size % 2 == 1

/-- Membership of a character. -/
def has (set : CodeSet) (c : Char) : Bool := set.contains c.toNat

end CodeSet

end DocAccess.Text
