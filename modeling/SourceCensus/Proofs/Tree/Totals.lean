import SourceCensus.Proofs.Tree.Merging

/-! # Totals over the leaves of a tree

    Two kinds of number add up when nodes are put together: the lines, and the occurrences of each
    category. They are treated alike here, as a `Measure`; dispersions are averages and no measure.

    A merge of statistics adds every measure (`of_mergeStats`), so merging a node whose children
    are leaves keeps every total over its leaves (`sameTotals_merge`), and with it the totals of
    the tree (`SameTotals.replace`).

    In a `Summarized` tree every folder carries the merged statistics of its children, which come
    to their totals (`of_merged_parts`).
-/

namespace SourceCensus

/-! ## Measures -/

/-- What adds up when nodes are put together. -/
inductive Measure where
  /-- The number of lines. -/
  | lines
  /-- How often a category occurs. -/
  | occurrences (c : Category)
  deriving DecidableEq, Repr

namespace Measure

/-- How much of a measure there is in lines and statistics. An entry that a vector does not have
    counts for nothing. -/
def of : Measure → WeightedStats → Int
  | .lines, part => part.1
  | .occurrences c, part => occurrencesAt c.ordinal part.2

/-- **Measures add up** in a merge. -/
theorem of_mergeStats {parts : List WeightedStats} {merged : WeightedStats}
    (h : mergeStats parts = .ok merged) (m : Measure) :
    m.of merged = (parts.map m.of).foldr (· + ·) 0 := by
  cases m with
  | lines => exact fst_of_mergeStats h
  | occurrences c => exact occurrencesAt_of_mergeStats h c

end Measure

/-- How much of a measure a node carries. -/
def NodeInfo.amount (i : NodeInfo) (m : Measure) : Int := m.of (i.lineCount, i.stats)

/-- How much of a measure several nodes carry together. -/
def total (m : Measure) (infos : List NodeInfo) : Int :=
  (infos.map (·.amount m)).foldr (· + ·) 0

section Total

variable {m : Measure}

@[simp] theorem total_nil : total m [] = 0 := rfl

@[simp] theorem total_cons (i : NodeInfo) (is : List NodeInfo) :
    total m (i :: is) = i.amount m + total m is := rfl

@[simp] theorem total_append (is js : List NodeInfo) :
    total m (is ++ js) = total m is + total m js := by
  induction is with
  | nil => simp
  | cons i is ih => simp [ih, Int.add_assoc]

end Total

namespace Tree

variable {t u old new n : Tree} {a : Address} {m : Measure}

/-! ## Merges keep totals -/

/-- Merged statistics of the children carry their totals. -/
theorem of_merged_parts {merged : WeightedStats} (h : mergeStats t.parts = .ok merged)
    (m : Measure) : m.of merged = total m (t.children.map info) := by
  rw [Measure.of_mergeStats h, total, parts, List.map_map, List.map_map]
  rfl

/-- The leaves of two trees come to the same totals. -/
def SameTotals (t u : Tree) : Prop := ∀ m : Measure, total m u.leaves = total m t.leaves

theorem SameTotals.trans {v : Tree} (htu : t.SameTotals u) (huv : u.SameTotals v) :
    t.SameTotals v :=
  fun m => (huv m).trans (htu m)

/-- **A merge keeps totals.** The leaf that is left carries what the children carried together. -/
theorem sameTotals_merge (h : t.merge = .ok new) : t.SameTotals new := by
  obtain ⟨hmerge, merged, hstats, rfl⟩ := merge_eq_ok_iff.1 h
  intro m
  have hleaf : total m (t.mergedLeaf merged).leaves = m.of merged + 0 := rfl
  rw [hleaf, Int.add_zero, of_merged_parts hstats, leaves_of_canMerge hmerge]

/-- A node that is exchanged for one with the same totals leaves those of the tree. -/
theorem SameTotals.replace (hold : t.get? a = some old) (h : old.SameTotals new) :
    t.SameTotals (t.replace a new) := by
  intro m
  obtain ⟨before, after, heq, hset⟩ := leaves_replace hold
  have hm := h m
  rw [hset, heq]
  simp only [total_append]
  omega

/-- The totals of a leaf are what it carries. -/
theorem total_leaves_of_isLeaf (h : t.isLeaf = true) (m : Measure) :
    total m t.leaves = t.info.amount m := by
  rw [leaves_of_isLeaf h, total_cons, total_nil, Int.add_zero]

/-! ## Summarized trees -/

/-- Every folder with something in it carries the merged lines and statistics of its children. -/
def Summarized (t : Tree) : Prop := ∀ a n, t.get? a = some n → n.isLeaf = false →
  mergeStats n.parts = .ok (n.info.lineCount, n.info.stats)

theorem Summarized.get? (ht : t.Summarized) (hn : t.get? a = some n) : n.Summarized := by
  intro b k hk
  refine ht (a ++ b) k ?_
  rw [get?_append_of_some hn, hk]

theorem Summarized.of_not_isLeaf (ht : t.Summarized) (h : t.isLeaf = false) :
    mergeStats t.parts = .ok (t.info.lineCount, t.info.stats) :=
  ht [] t (get?_nil t) h

theorem summarized_of_isLeaf (h : t.isLeaf = true) : t.Summarized := by
  intro a n hn hfolder
  cases a with
  | nil =>
    rw [get?_nil, Option.some.injEq] at hn
    rw [← hn, h] at hfolder
    cases hfolder
  | cons i a =>
    rw [get?_cons_of_isLeaf h] at hn
    cases hn

/-- A folder is summarized when it carries what its children come to and they are summarized. -/
theorem summarized_node {info : NodeInfo} {cs : List Tree} (hcs : ∀ c ∈ cs, c.Summarized)
    (h : cs ≠ [] → mergeStats (Tree.node info cs).parts = .ok (info.lineCount, info.stats)) :
    (Tree.node info cs).Summarized := by
  intro a n hn hfolder
  cases a with
  | nil =>
    rw [get?_nil, Option.some.injEq] at hn
    subst hn
    exact h (by simpa using hfolder)
  | cons i a =>
    rw [get?_cons] at hn
    obtain ⟨c, hc, hn⟩ := Option.bind_eq_some_iff.1 hn
    exact hcs c (List.mem_of_getElem? hc) a n hn hfolder

end Tree

end SourceCensus
