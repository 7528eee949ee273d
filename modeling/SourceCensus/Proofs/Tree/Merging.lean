import SourceCensus.Tree.Collapse
import SourceCensus.Proofs.Stats.Merging
import SourceCensus.Proofs.Tree.Leaves

/-! # Merging the children of a node

    A merge takes a node whose children are all leaves and leaves a leaf that carries the merged
    statistics of the children, and else what the node carried (`merge_eq_ok_iff`).

    It can only fail when a number of lines has no double. Where the leaves of the tree weigh less
    than two to the power of 1000 every merge succeeds (`merge_of_canMerge`), and the leaf that
    comes of it carries the lines of the children together and weighs no more than they did.
-/

namespace SourceCensus.Tree

variable {t new : Tree}

/-- What a node is merged from: lines and statistics of each child. -/
def parts (t : Tree) : List WeightedStats :=
  t.children.map fun c => (c.info.lineCount, c.info.stats)

/-- The leaf that is left of a node whose children came to the given lines and statistics. -/
def mergedLeaf (t : Tree) (merged : WeightedStats) : Tree :=
  .node { t.info with lineCount := merged.1, stats := merged.2, isCollapsed := true } []

/-- **What a merge is.** It succeeds for a node whose children are leaves with statistics that can
    be merged, and leaves the leaf with the merged statistics. -/
theorem merge_eq_ok_iff : t.merge = .ok new ↔
    t.canMerge = true ∧ ∃ merged, mergeStats t.parts = .ok merged ∧ new = t.mergedLeaf merged := by
  constructor
  · intro h
    unfold merge at h
    split at h
    · cases h
    · split at h
      · cases h
      · rename_i hmerge
        split at h
        · cases h
        · rename_i i hi
          cases h
          obtain ⟨merged, hstats, hi⟩ := bind_eq_ok hi
          cases hi
          exact ⟨by simpa using hmerge, merged, hstats, rfl⟩
  · rintro ⟨hmerge, merged, hstats, rfl⟩
    have hinfo : t.mergedInfo = .ok (t.mergedLeaf merged).info := by
      unfold mergedInfo
      unfold parts at hstats
      rw [hstats]
      rfl
    rw [merge, if_neg (by simp [isLeaf_of_canMerge hmerge]), if_neg (by simp [hmerge]), hinfo]
    rfl

/-- The lines of the children as the merge adds them up. -/
theorem lineSum_children (t : Tree) :
    (t.parts.map (·.1)).foldr (· + ·) 0 = lineSum (t.children.map info) := by
  simp [parts, lineSum, Function.comp_def]

/-! ## When a merge succeeds -/

theorem mergeStats_succeeds (h : lineWeight (t.children.map info) < Number.twoTo 1000) :
    ∃ merged, mergeStats t.parts = .ok merged := by
  apply mergeStats_of_inRange
  · intro part hpart
    obtain ⟨c, hc, rfl⟩ := List.mem_map.1 hpart
    have := natAbs_lineCount_le (List.mem_map_of_mem (f := info) hc)
    exact toDouble_of_lt (by omega)
  · have := natAbs_lineSum_le (t.children.map info)
    rw [lineSum_children]
    exact toDouble_of_lt (by omega)

/-- **A merge succeeds** where the lines have doubles. -/
theorem merge_of_canMerge (hmerge : t.canMerge = true) (hlight : t.leafWeight < Number.twoTo 1000) :
    ∃ new, t.merge = .ok new := by
  rw [leafWeight, leaves_of_canMerge hmerge] at hlight
  obtain ⟨merged, hmerged⟩ := mergeStats_succeeds hlight
  exact ⟨t.mergedLeaf merged, merge_eq_ok_iff.2 ⟨hmerge, merged, hmerged, rfl⟩⟩

/-- What a merge that succeeds says about the node and about the leaf that is left of it. -/
theorem merge_eq_ok (h : t.merge = .ok new) :
    t.canMerge = true ∧ new.isLeaf = true ∧ new.info.linked = t.info.linked ∧
      new.info.lineCount = lineSum (t.children.map info) := by
  obtain ⟨hmerge, merged, hstats, rfl⟩ := merge_eq_ok_iff.1 h
  refine ⟨hmerge, rfl, rfl, ?_⟩
  rw [← lineSum_children]
  exact fst_of_mergeStats hstats

/-- The leaf that is left of a merge weighs no more than the leaves that went into it. -/
theorem leafWeight_merge_le (h : t.merge = .ok new) : new.leafWeight ≤ t.leafWeight := by
  obtain ⟨hmerge, hleaf, -, hlines⟩ := merge_eq_ok h
  have hsum := natAbs_lineSum_le (t.children.map info)
  rw [leafWeight, leafWeight, leaves_of_isLeaf hleaf, leaves_of_canMerge hmerge, lineWeight_cons,
    lineWeight_nil, hlines]
  omega

end SourceCensus.Tree
