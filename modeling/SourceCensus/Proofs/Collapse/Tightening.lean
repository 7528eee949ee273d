import SourceCensus.Proofs.Collapse.Pruning

/-! # Smaller budgets

    A budget says when to stop and nothing else. As long as a tree has more nodes than the larger
    of two budgets allows, a turn does the same for both (`turn_of_le`). So the run for the smaller
    budget goes through the end of the run for the larger one, and what it merges first is what
    the other merges (`merged_run_prefix`). This needs neither links nor a bound on the lines: a
    merge that fails ends both runs (`finished_of_le`).

    What is left for the smaller budget is then what the remaining merges leave of the tree for
    the larger one (`collapse_smaller_budget`).
-/

namespace SourceCensus.Tree

variable {t u n : Tree} {a : Address} {as : List Address} {m₁ m₂ budget : Int}

namespace Collapsing

variable {s next last : Collapsing} {ending : Ending}

/-! ## Turns -/

/-- A turn that ends a run changes neither the tree nor what was merged. -/
theorem turn_eq_stop (h : s.turn budget = .stop last ending) :
    last.tree = s.tree ∧ last.merged = s.merged := by
  unfold turn at h
  split at h
  · cases h
    exact ⟨rfl, rfl⟩
  · split at h
    · cases h
      exact ⟨rfl, rfl⟩
    · split at h
      · cases h
        exact ⟨rfl, rfl⟩
      · split at h
        · cases h
          exact ⟨rfl, rfl⟩
        · cases h

/-- Above both budgets a turn does not see which of them it is for. -/
theorem turn_eq_turn (hle : m₁ ≤ m₂) (hover : m₂ < s.total) : s.turn m₁ = s.turn m₂ := by
  rw [turn, turn, if_neg (by omega), if_neg (by omega)]

/-- A turn that merges for a budget does so for each smaller one. -/
theorem turn_of_le (hle : m₁ ≤ m₂) (h : s.turn m₂ = .go next) : s.turn m₁ = .go next := by
  obtain ⟨c, rest, old, new, hover, -⟩ := turn_eq_go h
  rwa [turn_eq_turn hle hover]

/-- A merge that fails for a budget fails for each smaller one. -/
theorem turn_of_le_of_failed {e : MergeError} (hle : m₁ ≤ m₂)
    (h : s.turn m₂ = .stop last (.failed e)) : s.turn m₁ = .stop last (.failed e) := by
  by_cases hmet : s.total ≤ m₂
  · -- with the budget met no merge is tried
    rw [turn, if_pos hmet] at h
    cases h
  · rwa [turn_eq_turn hle (by omega)]

/-! ## Runs -/

/-- A run only adds merges. -/
theorem merged_prefix_run (budget : Int) (s : Collapsing) :
    s.merged <+: (s.run budget).1.merged := by
  fun_induction run budget s with
  | case1 s last ending hstop => exact (turn_eq_stop hstop).2 ▸ List.prefix_rfl
  | case2 s next hgo ih =>
    obtain ⟨c, rest, old, new, -, -, -, -, rfl⟩ := turn_eq_go hgo
    rw [merged_mergeFirst] at ih
    exact (List.prefix_append _ _).trans ih

/-- **One run begins with the other.** The merges for a budget are the first ones for each smaller
    budget, by induction along the shorter run. -/
theorem merged_run_prefix (hle : m₁ ≤ m₂) (s : Collapsing) :
    (s.run m₂).1.merged <+: (s.run m₁).1.merged := by
  fun_induction run m₂ s with
  | case1 s last ending hstop =>
    rw [(turn_eq_stop hstop).2]
    exact merged_prefix_run m₁ s
  | case2 s next hgo ih =>
    rw [run_of_go (turn_of_le hle hgo)]
    exact ih

/-- A run that fails for a budget fails for each smaller one. -/
theorem finished_of_le (hle : m₁ ≤ m₂) (h : (s.run m₁).2 = .finished) :
    (s.run m₂).2 = .finished := by
  fun_induction run m₂ s with
  | case1 s last ending hstop =>
    cases ending with
    | finished => rfl
    | failed e =>
      rw [run_of_stop (turn_of_le_of_failed hle hstop)] at h
      cases h
  | case2 s next hgo ih =>
    rw [run_of_go (turn_of_le hle hgo)] at h
    exact ih h

/-- The merges of a run lead to its tree, also where the run ends with a merge that fails. -/
theorem replay_run (hr : Replayed budget t s) (hs : s.Orderly) :
    t.mergeAll? (s.run budget).1.merged = some (s.run budget).1.tree := by
  fun_induction run budget s with
  | case1 s last ending hstop =>
    obtain ⟨htree, hmerged⟩ := turn_eq_stop hstop
    rw [htree, hmerged, hr.replay]
  | case2 s next hgo ih => exact ih (hr.turn hs hgo) (hs.turn hgo)

/-- **Collapsing returns the end of a run**, whether it finished or a merge failed. -/
theorem collapse_eq_run (t : Tree) (hb : 1 ≤ budget) :
    ∃ r, t.collapse budget = .ok r ∧
      r.tree = ((startCollapsing t [] t).run budget).1.tree ∧
      r.merged = ((startCollapsing t [] t).run budget).1.merged ∧
      (r.failure = none ↔ ((startCollapsing t [] t).run budget).2 = .finished) := by
  obtain ⟨horderly, -, htree, hmerged⟩ := start_orderly t
  rw [collapse, collapseAt, if_neg (by omega), get?_nil]
  by_cases hinitial : (t.countNodes : Int) ≤ budget
  · -- a tree within the budget is a run that ends before its first merge
    have hmet : (startCollapsing t [] t).total ≤ budget := by
      rw [horderly.total_eq, htree, ← countNodes_eq_size]
      exact hinitial
    have hstop : (startCollapsing t [] t).turn budget =
        .stop (startCollapsing t [] t) .finished := by
      rw [turn, if_pos hmet]
    refine ⟨⟨t, [], [], none⟩, by simp only [if_pos hinitial], ?_⟩
    rw [run_of_stop hstop]
    exact ⟨htree.symm, hmerged.symm, by simp⟩
  · simp only [if_neg hinitial]
    -- what is returned is what the loop ends with, whichever way it ends
    cases (startCollapsing t [] t).run budget with
    | mk s ending =>
      cases ending with
      | finished =>
        exact ⟨⟨s.tree, s.merged, s.log ++ closingEntries t.countNodes budget s, none⟩, rfl, rfl,
          rfl, by simp⟩
      | failed e => exact ⟨⟨s.tree, s.merged, s.log, some e⟩, rfl, rfl, rfl, by simp⟩

end Collapsing

open Collapsing

/-! ## Budgets -/

/-- What is merged was there at the start. -/
theorem exists_get?_of_mem_merges (h : t.mergeAll? as = some u) (ha : a ∈ as) :
    ∃ n, t.get? a = some n := by
  obtain ⟨before, after, rfl⟩ := List.append_of_mem ha
  obtain ⟨v, hv, hrest⟩ := exists_of_mergeAll?_append h
  rw [mergeAll?_cons] at hrest
  obtain ⟨w, hw, -⟩ := Option.bind_eq_some_iff.1 hrest
  obtain ⟨old, new, hold, -, -⟩ := mergeAt?_eq_some_iff.1 hw
  obtain ⟨n, hn, -⟩ := (pruned_of_mergeAll? hv).kept a old hold
  exact ⟨n, hn⟩

/-- A merged node is a leaf with the mark of a merge at the end, or it is gone with a merged node
    above it. -/
theorem Pruned.merged_or_absorbed (hp : Pruned t u as) (ha : a ∈ as) (hn : t.get? a = some n) :
    (∃ leaf, u.get? a = some leaf ∧ leaf.isLeaf = true ∧ leaf.info.isCollapsed = true) ∨
      ∃ b ∈ as, Below a b := by
  cases hleft : u.get? a with
  | none => exact .inr ((hp.gone a n hn).1 hleft)
  | some leaf =>
    obtain ⟨m, -, hleftOf⟩ := hp.kept a leaf hleft
    rcases hleftOf.mergedOrSame with ⟨-, hend, hmark⟩ | ⟨hnot, -⟩
    · exact .inl ⟨leaf, rfl, hend, hmark⟩
    · exact absurd ha hnot

/-- **A smaller budget only collapses more.** Whichever nodes know their parents, the merges for the
    larger budget are the first ones for the smaller budget, and the merges after them lead from
    the one tree to the other. So a node that is left for the smaller budget is left for the larger
    one, and a node that is merged for the larger budget is merged for the smaller one, where it
    may have been absorbed by a merged node above it. Where the lines have doubles neither run
    fails, and in any case a failure for the larger budget is one for the smaller. -/
theorem collapse_smaller_budget (t : Tree) (hb : 1 ≤ m₁) (hle : m₁ ≤ m₂) :
    ∃ r₁ r₂ further, t.collapse m₁ = .ok r₁ ∧ t.collapse m₂ = .ok r₂ ∧
      (t.lineMagnitude < Number.twoTo 1000 → r₁.failure = none) ∧
      (r₁.failure = none → r₂.failure = none) ∧
      t.mergeAll? r₁.merged = some r₁.tree ∧ t.mergeAll? r₂.merged = some r₂.tree ∧
      r₁.merged = r₂.merged ++ further ∧ r₂.tree.mergeAll? further = some r₁.tree ∧
      (∀ a n, r₁.tree.get? a = some n → ∃ m, r₂.tree.get? a = some m ∧ LeftOf (a ∈ further) n m) ∧
      ∀ a ∈ r₂.merged, a ∈ r₁.merged ∧
        ((∃ leaf, r₁.tree.get? a = some leaf ∧ leaf.isLeaf = true ∧
            leaf.info.isCollapsed = true) ∨
          ∃ b ∈ r₁.merged, Below a b) := by
  obtain ⟨r₁, hr₁, htree₁, hmerged₁, hending₁⟩ := collapse_eq_run t hb
  obtain ⟨r₂, hr₂, htree₂, hmerged₂, hending₂⟩ := collapse_eq_run t (Int.le_trans hb hle)
  -- what a run has merged, replayed from the start, gives its tree
  have hreplay : ∀ budget, t.mergeAll? ((startCollapsing t [] t).run budget).1.merged =
      some ((startCollapsing t [] t).run budget).1.tree :=
    fun budget => replay_run (replayed_start budget t) (start_orderly t).1
  have hreplay₁ := hreplay m₁
  have hreplay₂ := hreplay m₂
  rw [← htree₁, ← hmerged₁] at hreplay₁
  rw [← htree₂, ← hmerged₂] at hreplay₂
  obtain ⟨further, hfurther⟩ := merged_run_prefix hle (startCollapsing t [] t)
  rw [← hmerged₁, ← hmerged₂] at hfurther
  -- the merges of the longer run are cut where the shorter one ends
  have hrest : r₂.tree.mergeAll? further = some r₁.tree := by
    rw [← hfurther, mergeAll?_append, hreplay₂, Option.bind_some] at hreplay₁
    exact hreplay₁
  refine ⟨r₁, r₂, further, hr₁, hr₂, ?_, ?_, hreplay₁, hreplay₂, hfurther.symm, hrest,
    (pruned_of_mergeAll? hrest).kept, ?_⟩
  · -- in the first run nothing fails where the lines have doubles
    intro hlight
    obtain ⟨r, last, hr, -, -, -, -, hfailure, -⟩ :=
      collapse_spec (Nat.lt_of_le_of_lt (leafWeight_le_lineMagnitude t) hlight) hb
    rw [hr₁, Except.ok.injEq] at hr
    rw [hr, hfailure]
  · rw [hending₁, hending₂]
    exact finished_of_le hle
  · -- merged by the longer run, and left there or absorbed by a merge above
    intro a ha
    have ha₁ : a ∈ r₁.merged := by
      rw [← hfurther]
      exact List.mem_append_left _ ha
    obtain ⟨n, hn⟩ := exists_get?_of_mem_merges hreplay₂ ha
    exact ⟨ha₁, (pruned_of_mergeAll? hreplay₁).merged_or_absorbed ha₁ hn⟩

theorem collapse_smaller_budget_sampleHalfLinked :
    (1 : Int) ≤ 2 ∧ (2 : Int) ≤ 5 ∧
    ∃ r₁ r₂ further, sampleHalfLinked.collapse 2 = .ok r₁ ∧ sampleHalfLinked.collapse 5 = .ok r₂ ∧
      (sampleHalfLinked.lineMagnitude < Number.twoTo 1000 → r₁.failure = none) ∧
      (r₁.failure = none → r₂.failure = none) ∧
      sampleHalfLinked.mergeAll? r₁.merged = some r₁.tree ∧
      sampleHalfLinked.mergeAll? r₂.merged = some r₂.tree ∧
      r₁.merged = r₂.merged ++ further ∧ r₂.tree.mergeAll? further = some r₁.tree ∧
      (∀ a n, r₁.tree.get? a = some n → ∃ m, r₂.tree.get? a = some m ∧ LeftOf (a ∈ further) n m) ∧
      ∀ a ∈ r₂.merged, a ∈ r₁.merged ∧
        ((∃ leaf, r₁.tree.get? a = some leaf ∧ leaf.isLeaf = true ∧
            leaf.info.isCollapsed = true) ∨
          ∃ b ∈ r₁.merged, Below a b) :=
  ⟨by decide, by decide, collapse_smaller_budget sampleHalfLinked (by decide) (by decide)⟩

end SourceCensus.Tree
