import SourceCensus.Workers

/-! # Workers do not matter

    Tasks that several workers finish in any order have the results that one worker gets one after
    the other (`results_eq_oneByOne`): what has arrived under the number of a task is the result
    of that task (`eq_of_lookup_arrivals`), and what has not arrived is waited for.
-/

namespace SourceCensus.Workers

variable {ε α β : Type} {work : α → Except ε β} {tasks rest : List α}

/-- What has arrived under a number is the result of the task with that number. -/
theorem eq_of_lookup_arrivals {finish : List Nat} {i : Nat} {r : Except ε β}
    (h : (arrivals work tasks finish).lookup i = some r) :
    ∃ a, tasks[i]? = some a ∧ r = work a := by
  -- on the order in which the tasks end: the first of them has this number or another one
  induction finish with
  | nil => cases h
  | cons j finish ih =>
    unfold arrivals at h ih
    rw [List.filterMap_cons] at h
    -- a number without a task leaves nothing behind
    cases htask : tasks[j]? with
    | none =>
      rw [htask] at h
      exact ih h
    | some a =>
      rw [htask] at h
      by_cases hij : i = j
      · subst hij
        simp only [Option.map_some, List.lookup_cons_self, Option.some.injEq] at h
        exact ⟨a, htask, h.symm⟩
      · have hne : (i == j) = false := by simpa using hij
        simp only [Option.map_some, List.lookup_cons, hne] at h
        exact ih h

/-- Handing over gives the results one by one when what has arrived under the number of a task is
    its result. -/
theorem handOver_eq_oneByOne {arrived : Arrived ε β} {i : Nat}
    (h : ∀ j a r, rest[j]? = some a → arrived.lookup (i + j) = some r → r = work a) :
    handOver work arrived i rest = oneByOne work rest := by
  induction rest generalizing i with
  | nil => rfl
  | cons a rest ih =>
    have hfirst : (arrived.lookup i).getD (work a) = work a := by
      cases hlookup : arrived.lookup i with
      | none => rfl
      | some r => exact h 0 a r rfl hlookup
    -- the task at place `j` of the rest has the number `i + 1 + j`
    have hrest : handOver work arrived (i + 1) rest = oneByOne work rest := by
      apply ih
      intro j b r hget hlookup
      refine h (j + 1) b r hget ?_
      rwa [← Nat.add_assoc, Nat.add_right_comm]
    rw [handOver, oneByOne, hfirst, hrest]

/-- **Workers do not matter,** nor does the order in which they finish. -/
theorem results_eq_oneByOne (workers : Int) (finish : List Nat) (work : α → Except ε β)
    (tasks : List α) : results workers finish work tasks = oneByOne work tasks := by
  unfold results
  by_cases hfew : (decide (workers ≤ 1) || decide (tasks.length < 2)) = true
  · rw [if_pos hfew]
  · rw [if_neg hfew]
    apply handOver_eq_oneByOne
    intro j a r hget hlookup
    rw [Nat.zero_add] at hlookup
    obtain ⟨b, hb, rfl⟩ := eq_of_lookup_arrivals hlookup
    rw [hget, Option.some.injEq] at hb
    rw [hb]

/-- One worker runs down the list of tasks. -/
theorem oneByOne_eq_mapM (work : α → Except ε β) (tasks : List α) :
    oneByOne work tasks = tasks.mapM work := by
  induction tasks with
  | nil => rfl
  | cons a rest ih =>
    rw [oneByOne, List.mapM_cons, ih]
    cases work a with
    | error e => rfl
    | ok b => cases rest.mapM work <;> rfl

end SourceCensus.Workers
