import SourceCensus.Number.Rounding

/-! # Standard deviation

    The population standard deviation of a list of numbers: the square root of the mean
    squared distance from the mean. Fewer than two values have no spread.

    Integers are summed exactly for as long as no other number has come up, and their mean
    is the double nearest to the quotient. From the first double on, all sums are sums of
    doubles from left to right. An integer or a mean that exceeds the doubles is an error.
-/

namespace SourceCensus

open Number

/-- Why a statistic cannot be computed. -/
inductive StatsError where
  /-- A mean of integers exceeds the doubles. -/
  | quotientTooLarge
  /-- An integer exceeds the doubles. -/
  | integerTooLarge
  deriving DecidableEq, Repr

/-- The text of a statistics error. -/
def StatsError.message : StatsError → String
  | .quotientTooLarge => "integer division result too large for a float"
  | .integerTooLarge => "int too large to convert to float"

/-- An integer as a double. -/
def toDouble (n : Int) : Except StatsError Float :=
  match double? n with
  | some x => .ok x
  | none => .error .integerTooLarge

/-- A number of which a statistic is taken. -/
inductive Sample where
  | whole (n : Int)
  | real (x : Float)

namespace Sample

/-- A sample as a double. -/
def double : Sample → Except StatsError Float
  | .whole n => toDouble n
  | .real x => .ok x

/-- The sum of two samples: exact for two integers, a double otherwise. -/
def add : Sample → Sample → Except StatsError Sample
  | .whole m, .whole n => .ok (.whole (m + n))
  | a, b => do return .real ((← a.double) + (← b.double))

/-- The sum of samples from left to right. -/
def sum (values : List Sample) : Except StatsError Sample := values.foldlM add (.whole 0)

/-- A sum divided by a count. -/
def mean (total : Sample) (count : Nat) : Except StatsError Float :=
  match total with
  | .whole n => match quotient? n count with
    | some x => .ok x
    | none => .error .quotientTooLarge
  | .real x => do return x / (← toDouble count)

end Sample

/-- The square of the distance between a value and the mean. -/
def squaredDistance (mean : Float) (v : Sample) : Except StatsError Float := do
  let x ← v.double
  return (x - mean) * (x - mean)

/-- The population standard deviation. -/
def standardDeviation (values : List Sample) : Except StatsError Float := do
  let count := values.length
  if count < 2 then return 0.0
  let mean ← (← Sample.sum values).mean count
  let squares ← values.mapM (squaredDistance mean)
  let total := squares.foldl (· + ·) 0.0
  return Float.sqrt (total / (← toDouble count))

end SourceCensus
