/-! # Workers

    Tasks that do not depend on one another may be given to several workers. They then finish
    in any order; each result is kept under the number of its task, and the results are handed
    over in the order of the tasks, so the first failure in that order is the outcome. One
    worker does the tasks one after the other and stops at the first failure.
-/

namespace SourceCensus.Workers

/-- The results that have arrived, each with the number of its task. -/
abbrev Arrived (ε β : Type) := List (Nat × Except ε β)

/-- The results of tasks that finish in a given order. -/
def arrivals {ε α β : Type} (work : α → Except ε β) (tasks : List α) (finish : List Nat) :
    Arrived ε β :=
  finish.filterMap fun i => tasks[i]?.map fun a => (i, work a)

/-- Hands the results of tasks over in the order of the tasks, from a number on. A result that
    has not arrived is waited for. -/
def handOver {ε α β : Type} (work : α → Except ε β) (arrived : Arrived ε β) :
    Nat → List α → Except ε (List β)
  | _, [] => .ok []
  | i, a :: rest =>
    match (arrived.lookup i).getD (work a) with
    | .error e => .error e
    | .ok b => (handOver work arrived (i + 1) rest).map (b :: ·)

/-- The results of tasks done one after the other. -/
def oneByOne {ε α β : Type} (work : α → Except ε β) : List α → Except ε (List β)
  | [] => .ok []
  | a :: rest =>
    match work a with
    | .error e => .error e
    | .ok b => (oneByOne work rest).map (b :: ·)

/-- The results of tasks given to a number of workers that finish them in a given order. A
    single task needs no workers. -/
def results {ε α β : Type} (workers : Int) (finish : List Nat) (work : α → Except ε β)
    (tasks : List α) : Except ε (List β) :=
  if workers ≤ 1 || tasks.length < 2 then oneByOne work tasks
  else handOver work (arrivals work tasks finish) 0 tasks

end SourceCensus.Workers
