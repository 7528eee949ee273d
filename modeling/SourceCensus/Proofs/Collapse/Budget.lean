import SourceCensus.Proofs.Collapse.Invariant

/-! # The budget is always met

    The loop starts with every node that can be merged in the queue (`start_orderly`), so the
    invariants hold from the first turn to the last. What `collapse` returns is the end of a run
    in which no merge fails (`collapse_of_run`, `collapse_spec`), and where every child knows its
    parent the run ends within the budget (`collapse_meets_budget`).
-/

namespace SourceCensus.Tree.Collapsing

variable {s last : Collapsing} {t : Tree} {budget : Int}

/-! ## The start -/

/-- The state before anything is queued. -/
def unqueued (t : Tree) : Collapsing :=
  { tree := t, total := t.countNodes, queue := [], queued := 0, merged := [], log := [] }

/-- Queues nodes of a tree one after the other. -/
def pushAll (t : Tree) (as : List Address) (s : Collapsing) : Collapsing :=
  as.foldl (fun s a => s.push a (((t.get? a).map (·.info.lineCount)).getD 0)) s

theorem startCollapsing_eq (t : Tree) :
    startCollapsing t [] t = pushAll t t.mergeable (unqueued t) := by
  rw [← collapsible_eq_mergeable]
  rfl

theorem pushAll_cons {n : Tree} {a : Address} (h : t.get? a = some n) (as : List Address)
    (s : Collapsing) : pushAll t (a :: as) s = pushAll t as (s.push a n.info.lineCount) := by
  rw [pushAll, List.foldl_cons, h]
  rfl

@[simp] theorem tree_pushAll (t : Tree) (as : List Address) (s : Collapsing) :
    (pushAll t as s).tree = s.tree := by
  induction as generalizing s with
  | nil => rfl
  | cons a as ih => exact ih _

@[simp] theorem merged_pushAll (t : Tree) (as : List Address) (s : Collapsing) :
    (pushAll t as s).merged = s.merged := by
  induction as generalizing s with
  | nil => rfl
  | cons a as ih => exact ih _

/-- Nodes that can be merged may be queued one after the other, if none comes twice. -/
theorem Orderly.pushAll {as : List Address} (hs : s.Orderly)
    (hmerge : ∀ a ∈ as, ∃ n, s.tree.get? a = some n ∧ n.canMerge = true)
    (hdistinct : (as ++ s.queuedAddresses).Nodup) :
    (pushAll s.tree as s).Orderly ∧
      (pushAll s.tree as s).queuedAddresses.Perm (as ++ s.queuedAddresses) := by
  induction as generalizing s with
  | nil => exact ⟨hs, .refl _⟩
  | cons a as ih =>
    obtain ⟨n, hn, hnm⟩ := hmerge a (by simp)
    have hfresh : a ∉ s.queuedAddresses := by
      intro hqueued
      exact (List.nodup_cons.1 hdistinct).1 (List.mem_append_right as hqueued)
    -- what is queued and what is still to come are the same nodes after the step
    have hperm : (as ++ (s.push a n.info.lineCount).queuedAddresses).Perm
        (a :: as ++ s.queuedAddresses) :=
      ((perm_queuedAddresses_push s a _).append_left as).trans List.perm_middle
    obtain ⟨horderly, hall⟩ := ih (hs.push hn hnm hfresh) (fun b hb => hmerge b (by simp [hb]))
      (hperm.nodup_iff.2 hdistinct)
    rw [tree_push] at horderly hall
    rw [pushAll_cons hn]
    exact ⟨horderly, hall.trans hperm⟩

theorem orderly_unqueued (t : Tree) : (unqueued t).Orderly where
  total_eq := by rw [unqueued, countNodes_eq_size]
  ranked := by simp [unqueued]
  sorted := List.Pairwise.nil
  distinct := List.nodup_nil
  earlier := by simp [unqueued]
  quiet := by simp [unqueued]

/-- **The start.** Nothing is merged yet, and the queue holds what can be merged. -/
theorem start_orderly (t : Tree) :
    (startCollapsing t [] t).Orderly ∧ (startCollapsing t [] t).Complete ∧
      (startCollapsing t [] t).tree = t ∧ (startCollapsing t [] t).merged = [] := by
  rw [startCollapsing_eq]
  have hmerge : ∀ a ∈ t.mergeable, ∃ n, (unqueued t).tree.get? a = some n ∧ n.canMerge = true :=
    fun a ha => mem_mergeable_iff.1 ha
  have hnone : (unqueued t).queuedAddresses = [] := rfl
  obtain ⟨horderly, hall⟩ := (orderly_unqueued t).pushAll hmerge
    (by rw [hnone, List.append_nil]; exact nodup_mergeable t)
  refine ⟨horderly, ?_, by simp [unqueued], by simp [unqueued]⟩
  intro a ha
  rw [tree_pushAll] at ha
  exact hall.mem_iff.2 (List.mem_append_left _ ha)

/-- Where the lines have doubles, the loop is sound from the start. -/
theorem start_spec (h : t.leafWeight < Number.twoTo 1000) :
    (startCollapsing t [] t).Sound ∧ (startCollapsing t [] t).Complete ∧
      (startCollapsing t [] t).tree = t ∧ (startCollapsing t [] t).merged = [] := by
  obtain ⟨horderly, hcomplete, htree, hmerged⟩ := start_orderly t
  exact ⟨⟨horderly, htree.symm ▸ h⟩, hcomplete, htree, hmerged⟩

/-- Where children know their parents, both invariants hold in every turn. -/
theorem invariants_of_visits (hl : t.Linked) (hlight : t.leafWeight < Number.twoTo 1000)
    (h : Visits budget (startCollapsing t [] t) s) : s.Sound ∧ s.Complete := by
  obtain ⟨hsound, hcomplete, htree, -⟩ := start_spec hlight
  exact ⟨h.sound hsound, h.complete (htree.symm ▸ hl) hcomplete⟩

/-! ## What collapsing returns -/

/-- Only a run that ends over the budget reports it. -/
theorem ne_warning_of_mem_closingEntries {initial : Int} {e : LogEntry} (h : s.total ≤ budget)
    (he : e ∈ closingEntries initial budget s) : e.severity ≠ .warning := by
  rw [closingEntries, if_neg (by omega)] at he
  rw [List.mem_singleton.1 he]
  exact fun h => nomatch h

/-- **Collapsing is a run of the loop.** Where no merge fails in that run, it returns what the
    loop ends with, and the log has no warning if the budget is met. -/
theorem collapse_of_run (hb : 1 ≤ budget)
    (hrun : ∃ last, (startCollapsing t [] t).run budget = (last, .finished) ∧
      Visits budget (startCollapsing t [] t) last ∧ (last.total ≤ budget ∨ last.queue = [])) :
    ∃ r last, t.collapse budget = .ok r ∧ Visits budget (startCollapsing t [] t) last ∧
      (last.total ≤ budget ∨ last.queue = []) ∧ r.tree = last.tree ∧ r.merged = last.merged ∧
      r.failure = none ∧ (last.total ≤ budget → ∀ e ∈ r.log, e.severity ≠ .warning) := by
  obtain ⟨horderly, -, htree, hmerged⟩ := start_orderly t
  rw [collapse, collapseAt, if_neg (by omega), get?_nil]
  by_cases hinitial : (t.countNodes : Int) ≤ budget
  · -- the loop is not entered, which is a run of no turns
    refine ⟨⟨t, [], [], none⟩, startCollapsing t [] t, ?_, .here _, .inl ?_, htree.symm,
      hmerged.symm, rfl, by simp⟩
    · simp only [if_pos hinitial]
    · rw [horderly.total_eq, htree, ← countNodes_eq_size]
      exact hinitial
  · obtain ⟨last, hlast, hvisits, hend⟩ := hrun
    refine ⟨⟨last.tree, last.merged, last.log ++ closingEntries t.countNodes budget last, none⟩,
      last, ?_, hvisits, hend, rfl, rfl, rfl, ?_⟩
    · simp only [if_neg hinitial, hlast]
    · -- the entries of the merges come first, then the closing ones
      intro htotal e he
      rcases List.mem_append.1 he with he | he
      · rw [(hvisits.orderly horderly).quiet e he]
        exact fun h => nomatch h
      · exact ne_warning_of_mem_closingEntries htotal he

/-- Where the lines have doubles, no merge fails in the run. -/
theorem collapse_spec (hlight : t.leafWeight < Number.twoTo 1000) (hb : 1 ≤ budget) :
    ∃ r last, t.collapse budget = .ok r ∧ Visits budget (startCollapsing t [] t) last ∧
      (last.total ≤ budget ∨ last.queue = []) ∧ r.tree = last.tree ∧ r.merged = last.merged ∧
      r.failure = none ∧ (last.total ≤ budget → ∀ e ∈ r.log, e.severity ≠ .warning) :=
  collapse_of_run hb <| run_of_invariant (start_spec hlight).1
    (fun hs => ⟨hs.toOrderly, hs.merging⟩) Sound.turn

end Collapsing

open Collapsing

/-- **Collapsing meets every budget** where children know their parents: it returns a tree within
    the budget without an error and without the warning. In every turn of the loop the number of
    nodes that is kept is the number a count would give, and the queue holds each node that can
    be collapsed exactly once. -/
theorem collapse_meets_budget {t : Tree} {budget : Int} (hl : t.Linked)
    (hlight : t.lineMagnitude < Number.twoTo 1000) (hb : 1 ≤ budget) :
    (∃ r, t.collapse budget = .ok r ∧ r.failure = none ∧ (r.tree.countNodes : Int) ≤ budget ∧
      ∀ e ∈ r.log, e.severity ≠ .warning) ∧
    ∀ s, Visits budget (startCollapsing t [] t) s → s.total = s.tree.countNodes ∧
      s.queuedAddresses.Nodup ∧ s.queuedAddresses.Perm s.tree.collapsible := by
  have hweight : t.leafWeight < Number.twoTo 1000 :=
    Nat.lt_of_le_of_lt (leafWeight_le_lineMagnitude t) hlight
  constructor
  · obtain ⟨r, last, hr, hvisits, hend, hrtree, -, hfailure, hwarning⟩ := collapse_spec hweight hb
    obtain ⟨hsound, hcomplete⟩ := invariants_of_visits hl hweight hvisits
    have hmet := total_le_of_stuck hsound hcomplete hb hend
    refine ⟨r, hr, hfailure, ?_, hwarning hmet⟩
    rw [hrtree, countNodes_eq_size, ← hsound.total_eq]
    exact hmet
  · intro s hvisits
    obtain ⟨hsound, hcomplete⟩ := invariants_of_visits hl hweight hvisits
    refine ⟨?_, hsound.distinct, ?_⟩
    · rw [hsound.total_eq, countNodes_eq_size]
    · rw [collapsible_eq_mergeable]
      exact perm_mergeable hsound hcomplete

/-- A file of a sample tree. -/
def sampleFile (path : String) (lineCount : Int) : Tree :=
  .node { path, isFile := true, lineCount } []

/-- A folder of a sample tree, with its children attached. -/
def sampleFolder (path : String) (lineCount : Int) (cs : List Tree) : Tree :=
  cs.foldl addChild (.node { path, lineCount } [])

/-- Folders side by side with as many lines, and one inside another. -/
def sampleProject : Tree :=
  sampleFolder "p" 10 [
    sampleFolder "p/doc" 3 [sampleFile "p/doc/a" 1, sampleFile "p/doc/b" 2],
    sampleFolder "p/src" 3 [
      sampleFolder "p/src/lib" 2 [sampleFile "p/src/lib/c" 2, sampleFile "p/src/lib/d" 0],
      sampleFile "p/src/e" 1],
    sampleFile "p/f" 4]

theorem collapse_meets_budget_sampleProject :
    sampleProject.Linked ∧ sampleProject.lineMagnitude < Number.twoTo 1000 ∧
    5 < sampleProject.countNodes ∧
    (∃ r, sampleProject.collapse 5 = .ok r ∧ r.failure = none ∧ (r.tree.countNodes : Int) ≤ 5 ∧
      ∀ e ∈ r.log, e.severity ≠ .warning) ∧
    ∀ s, Visits 5 (startCollapsing sampleProject [] sampleProject) s →
      s.total = s.tree.countNodes ∧ s.queuedAddresses.Nodup ∧
        s.queuedAddresses.Perm s.tree.collapsible := by
  have hl : sampleProject.Linked := by decide +kernel
  have hlight : sampleProject.lineMagnitude < Number.twoTo 1000 := by decide +kernel
  have hover : 5 < sampleProject.countNodes := by
    rw [countNodes_eq_size]
    decide +kernel
  exact ⟨hl, hlight, hover, collapse_meets_budget hl hlight (by decide)⟩

end SourceCensus.Tree
