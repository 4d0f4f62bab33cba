/-! Sets of characters, given by the boundaries of their runs. -/
namespace FixTrial.Text

/-- The increasing boundaries of a set's runs: a character belongs to the set when an odd number of
boundaries is at or below its code point. -/
structure CharSet where
  bounds : Array Nat

namespace CharSet

/-- How many boundaries are at or below `n`, knowing that it is at least `lo` and at most `hi`. -/
def rankBetween (s : CharSet) (n lo hi : Nat) : Nat :=
  if _h : lo < hi then
    let mid := (lo + hi) / 2
    if s.bounds.getD mid 0 ≤ n then s.rankBetween n (mid + 1) hi
    else s.rankBetween n lo mid
  else lo
termination_by hi - lo

def contains (s : CharSet) (c : Char) : Bool :=
  s.rankBetween c.toNat 0 s.bounds.size % 2 = 1

end CharSet
end FixTrial.Text
