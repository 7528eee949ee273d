import SourceCensus.Token
import SourceCensus.Stats.Deviation

/-! # Statistics by category

    For every category, how often its constructs occur and how far they spread over the
    lines. A vector holds one entry for each category in the fixed order; a vector that a
    caller supplies may be shorter, and an entry that is missing counts for nothing.

    Vectors are merged by adding the occurrences and averaging the dispersions, each part
    weighted by its number of lines.
-/

namespace SourceCensus

/-- The statistics of one category. -/
structure CategoryStats where
  /-- Number of constructs of the category. -/
  occurrences : Int := 0
  /-- Standard deviation of the lines they start on. -/
  dispersion : Float := 0.0

/-- Statistics in category order. -/
abbrev StatsVector := List CategoryStats

/-- Nothing occurs. -/
def emptyStats : StatsVector := Category.all.map fun _ => {}

/-! ## Grouping -/

/-- Adds an item to the group of its key, or begins a new group at the end. -/
def addToGroup {κ α : Type} [BEq κ] (key : κ) (item : α) : List (κ × List α) → List (κ × List α)
  | [] => [(key, [item])]
  | (k, items) :: rest =>
    if k == key then (k, items ++ [item]) :: rest else (k, items) :: addToGroup key item rest

/-- The items of a list by key: keys in order of first appearance, items in their own order. -/
def groupBy {κ α : Type} [BEq κ] (key : α → κ) (items : List α) : List (κ × List α) :=
  items.foldl (fun groups item => addToGroup (key item) item groups) []

/-! ## Aggregation -/

/-- The statistics of the tokens of one category. -/
def statsOf (tokens : List Token) : Except StatsError CategoryStats := do
  let dispersion ← standardDeviation (tokens.map fun t => .whole t.line)
  return { occurrences := tokens.length, dispersion }

/-- The statistics of tokens, one entry for each category. -/
def aggregate (tokens : List Token) : Except StatsError StatsVector :=
  let groups := groupBy Token.category tokens
  Category.all.mapM fun c => statsOf ((groups.lookup c).getD [])

/-! ## Merging -/

/-- A part of a whole: its number of lines and its statistics. -/
abbrev WeightedStats := Int × StatsVector

/-- Occurrences so far and the weighted sum of dispersions so far, with one more part. -/
def addWeighted (i : Nat) (acc : Int × Float) (part : WeightedStats) :
    Except StatsError (Int × Float) :=
  match part.2[i]? with
  | none => .ok acc
  | some s => do return (acc.1 + s.occurrences, acc.2 + s.dispersion * (← toDouble part.1))

/-- The entry of one category in the merge of several parts that have `total` lines. -/
def mergeEntry (parts : List WeightedStats) (total : Int) (i : Nat) :
    Except StatsError CategoryStats := do
  let (occurrences, weighted) ← parts.foldlM (addWeighted i) (0, 0.0)
  if 0 < total then return { occurrences, dispersion := weighted / (← toDouble total) }
  else return { occurrences, dispersion := 0.0 }

/-- Lines and statistics of several parts together. -/
def mergeStats (parts : List WeightedStats) : Except StatsError WeightedStats := do
  let total := (parts.map (·.1)).foldr (· + ·) 0
  let merged ← Category.all.mapM fun c => mergeEntry parts total c.ordinal
  return (total, merged)

end SourceCensus
