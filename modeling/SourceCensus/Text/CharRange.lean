/-! # Ranges of code points

    A character class is written as an ascending list of closed intervals of code
    points, and a case map as a list of intervals that are shifted by a constant.
    Both are searched from the left, and both stop at the first interval that lies
    beyond the code point.
-/

namespace SourceCensus.Text

/-- `inRanges rs n` holds when one of the ascending intervals `rs` contains `n`. -/
def inRanges : List (Nat × Nat) → Nat → Bool
  | [], _ => false
  | (lo, hi) :: rest, n => if n < lo then false else n ≤ hi || inRanges rest n

/-- An interval of code points, every `step`-th of which is moved by `offset`. -/
structure Shift where
  /-- First code point of the interval. -/
  first : Nat
  /-- Last code point of the interval. -/
  last : Nat
  /-- Distance between two code points that move. -/
  step : Nat
  /-- What is added to a code point that moves. -/
  offset : Int

/-- The code point that an ascending list of shifts takes `n` to; outside the intervals it stays. -/
def shifted : List Shift → Nat → Nat
  | [], n => n
  | s :: rest, n =>
    if n < s.first then n
    else if n ≤ s.last then
      if (n - s.first) % s.step = 0 then (n + s.offset).toNat else n
    else shifted rest n

end SourceCensus.Text
