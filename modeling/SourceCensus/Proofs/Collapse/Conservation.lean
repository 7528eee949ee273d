import SourceCensus.Proofs.Collapse.Replay
import SourceCensus.Proofs.Tree.Folder

/-! # What collapsing keeps

    Collapsing takes detail away and nothing else.

    - In every tree the leaves come to the same lines and to the same occurrences of each category
      before and after, and a merged node carries what the leaves below it came to at the start
      (`collapse_keeps_totals`). This needs no links: it holds for every list of merges.
    - In a summarized tree a merge gives a node the lines and the statistics that it has already.
      So no merge can fail, and a node that is left carries what it carried, dispersions
      included (`collapse_keeps_nodes`). The tree stays summarized in every turn, which is what
      carries that statement through merges of nodes that were merged before.
-/

namespace SourceCensus.Tree

open Collapsing

variable {t old new n : Tree} {a : Address} {s next : Collapsing} {budget : Int}

/-! ## Totals -/

/-- **Collapsing loses nothing.** Whatever links a tree has, its leaves come to the same total of
    every measure before and after. A merged node becomes a leaf that carries the totals over the
    leaves it had at the start, and that leaf stays as it is for as long as it is there. -/
theorem collapse_keeps_totals (hlight : t.lineMagnitude < Number.twoTo 1000) (hb : 1 ≤ budget) :
    ∃ r, t.collapse budget = .ok r ∧ r.failure = none ∧
      (∀ m : Measure, total m r.tree.leaves = total m t.leaves) ∧
      ∀ before a after, r.merged = before ++ a :: after →
        ∃ old u leaf, t.get? a = some old ∧ t.mergeAll? (before ++ [a]) = some u ∧
          u.get? a = some leaf ∧ leaf.isLeaf = true ∧
          (∀ m : Measure, leaf.info.amount m = total m old.leaves) ∧
          u.mergeAll? after = some r.tree ∧ ∀ n, r.tree.get? a = some n → n = leaf := by
  have hweight : t.leafWeight < Number.twoTo 1000 :=
    Nat.lt_of_le_of_lt (leafWeight_le_lineMagnitude t) hlight
  obtain ⟨r, last, hr, hvisits, -, hrtree, hrmerged, hfailure, -⟩ := collapse_spec hweight hb
  have hreplay := ((replayed_start budget t).visits hvisits (start_orderly t).1).replay
  rw [← hrtree, ← hrmerged] at hreplay
  refine ⟨r, hr, hfailure, ?_, ?_⟩
  · -- every merge keeps the totals at the top, which are those of the whole tree
    obtain ⟨top, htop, hsame⟩ := exists_sameTotals_of_mergeAll? hreplay (get?_nil r.tree)
    rw [get?_nil, Option.some.injEq] at htop
    exact htop ▸ hsame
  · intro before a after hsplit
    -- the run is cut right after the merge of `a`
    rw [hsplit, List.append_cons] at hreplay
    obtain ⟨u, hu, hafter⟩ := exists_of_mergeAll?_append hreplay
    have hmergeAll := hu
    rw [mergeAll?_concat] at hmergeAll
    obtain ⟨v, -, hv⟩ := Option.bind_eq_some_iff.1 hmergeAll
    obtain ⟨leaf, hleaf, hend⟩ := exists_leaf_of_mergeAt? hv
    obtain ⟨old, hold, hsame⟩ := exists_sameTotals_of_mergeAll? hu hleaf
    refine ⟨old, u, leaf, hold, hu, hleaf, hend, ?_, hafter, ?_⟩
    · intro m
      rw [← total_leaves_of_isLeaf hend]
      exact hsame m
    · intro n hn
      exact eq_of_mergeAll? hafter hleaf hend hn

/-- Lines below zero, vectors that lack entries, and a folder that does not know its parent, so
    that collapsing stops there. -/
def sampleSparse : Tree :=
  .node { path := "s" } [
    .node { path := "s/a", lineCount := 9 } [
      .node { path := "s/a/x", isFile := true, lineCount := -4, linked := true
              stats := [{ occurrences := 2, dispersion := 1.5 }] } [],
      .node { path := "s/a/y", isFile := true, lineCount := 6 } []],
    .node { path := "s/b", linked := true } [
      .node { path := "s/b/c", lineCount := 1, linked := true } [
        .node { path := "s/b/c/z", isFile := true, lineCount := 5
                stats := [{}, {}, { occurrences := -1 }, { occurrences := 3 }] } []]]]

theorem collapse_keeps_totals_sampleSparse :
    sampleSparse.lineMagnitude < Number.twoTo 1000 ∧ 1 < sampleSparse.countNodes ∧
    ∃ r, sampleSparse.collapse 1 = .ok r ∧ r.failure = none ∧
      (∀ m : Measure, total m r.tree.leaves = total m sampleSparse.leaves) ∧
      ∀ before a after, r.merged = before ++ a :: after →
        ∃ old u leaf, sampleSparse.get? a = some old ∧
          sampleSparse.mergeAll? (before ++ [a]) = some u ∧
          u.get? a = some leaf ∧ leaf.isLeaf = true ∧
          (∀ m : Measure, leaf.info.amount m = total m old.leaves) ∧
          u.mergeAll? after = some r.tree ∧ ∀ n, r.tree.get? a = some n → n = leaf := by
  have hlight : sampleSparse.lineMagnitude < Number.twoTo 1000 := by decide +kernel
  have hover : 1 < sampleSparse.countNodes := by
    rw [countNodes_eq_size]
    decide +kernel
  exact ⟨hlight, hover, collapse_keeps_totals hlight (by decide)⟩

/-! ## Summarized trees -/

/-- A merge in a summarized tree leaves the lines and statistics that the node has already. -/
theorem Summarized.merge_eq (ht : t.Summarized) (hmerge : t.canMerge = true) :
    t.merge = .ok (.node { t.info with isCollapsed := true } []) :=
  merge_eq_ok_iff.2
    ⟨hmerge, (t.info.lineCount, t.info.stats), ht.of_not_isLeaf (isLeaf_of_canMerge hmerge), rfl⟩

/-- A tree stays summarized when a node becomes a leaf with the same lines and statistics. -/
theorem Summarized.replace_leaf (ht : t.Summarized) (hold : t.get? a = some old)
    (hleaf : new.isLeaf = true)
    (hsame : (new.info.lineCount, new.info.stats) = (old.info.lineCount, old.info.stats)) :
    (t.replace a new).Summarized := by
  intro b n hn hfolder
  rcases get?_replace_leaf hold hleaf hn with
    ⟨-, rfl⟩ | ⟨-, huntouched⟩ | ⟨m, i, r, -, hm, hbelow, rfl⟩
  · rw [hleaf] at hfolder
    cases hfolder
  · exact ht b n huntouched hfolder
  · -- above the leaf a folder has the parts it had
    have hparts : (m.replace (i :: r) new).parts = m.parts :=
      map_children_replace_cons (f := fun i => (i.lineCount, i.stats)) hbelow hsame
    rw [hparts, info_replace_cons]
    exact ht b m hm (isLeaf_of_get?_cons hbelow)

/-- What holds in every turn for a summarized tree that was `t` at the start. -/
structure Unaltered (t : Tree) (s : Collapsing) : Prop where
  orderly : s.Orderly
  summarized : s.tree.Summarized
  /-- A node that is still there carries what it carried, apart from the mark of a merge. -/
  kept : ∀ a n, s.tree.get? a = some n →
    ∃ m, t.get? a = some m ∧ n.info = { m.info with isCollapsed := n.info.isCollapsed }

theorem Unaltered.merging (hu : Unaltered t s) : s.Merging := by
  intro a n hn hmerge
  exact ⟨_, (hu.summarized.get? hn).merge_eq hmerge⟩

/-- **A turn alters nothing** but the mark of the merged node. -/
theorem Unaltered.turn (hu : Unaltered t s) (h : s.turn budget = .go next) : Unaltered t next := by
  have horderly := hu.orderly.turn h
  obtain ⟨c, rest, old, new, -, hqueue, hold, hnew, rfl⟩ := turn_eq_go h
  obtain ⟨hmerge, hleaf, -, -⟩ := merge_eq_ok hnew
  have hinfo : new.info = { old.info with isCollapsed := true } := by
    rw [(hu.summarized.get? hold).merge_eq hmerge, Except.ok.injEq] at hnew
    rw [← hnew]
    rfl
  refine ⟨horderly, ?_, ?_⟩
  · rw [tree_mergeFirst]
    exact hu.summarized.replace_leaf hold hleaf (by rw [hinfo])
  · intro b n hn
    rw [tree_mergeFirst] at hn
    rcases get?_replace_leaf hold hleaf hn with
      ⟨rfl, rfl⟩ | ⟨-, huntouched⟩ | ⟨m, i, r, -, hm, -, rfl⟩
    · -- the merged node: only its mark is new
      obtain ⟨m, hm, hkept⟩ := hu.kept c.address old hold
      refine ⟨m, hm, ?_⟩
      rw [hinfo, hkept]
    · exact hu.kept b n huntouched
    · -- a node above the merged one has another child, but the same lines and statistics
      rw [info_replace_cons]
      exact hu.kept b m hm

/-- **Collapsing alters no node that is left.** In a summarized tree no merge fails, and each node
    that is there after collapsing has the lines and the statistics it had before, and all else
    it carried but the mark of a merge. -/
theorem collapse_keeps_nodes (hsum : t.Summarized) (hb : 1 ≤ budget) :
    ∃ r, t.collapse budget = .ok r ∧ r.failure = none ∧
      ∀ a n, r.tree.get? a = some n → ∃ m, t.get? a = some m ∧
        n.info.lineCount = m.info.lineCount ∧ n.info.stats = m.info.stats ∧
        n.info = { m.info with isCollapsed := n.info.isCollapsed } := by
  obtain ⟨horderly, -, htree, -⟩ := start_orderly t
  have hstart : Unaltered t (startCollapsing t [] t) :=
    ⟨horderly, htree.symm ▸ hsum, fun a n hn => ⟨n, htree ▸ hn, rfl⟩⟩
  obtain ⟨r, last, hr, hvisits, -, hrtree, -, hfailure, -⟩ := collapse_of_run hb <|
    run_of_invariant hstart (fun hu => ⟨hu.orderly, hu.merging⟩) Unaltered.turn
  have hlast := hvisits.invariant hstart Unaltered.turn
  refine ⟨r, hr, hfailure, ?_⟩
  intro a n hn
  rw [hrtree] at hn
  obtain ⟨m, hm, hkept⟩ := hlast.kept a n hn
  refine ⟨m, hm, ?_, ?_, hkept⟩
  · rw [hkept]
  · rw [hkept]

/-- A folder with children, put together from below; an empty one where that fails. -/
def folderOf (path : String) (cs : List Tree) : Tree :=
  match ofChildren path cs with
  | .ok t => t
  | .error _ => .node { path } []

theorem summarized_folderOf {path : String} {cs : List Tree} (hcs : ∀ c ∈ cs, c.Summarized) :
    (folderOf path cs).Summarized := by
  unfold folderOf
  cases h : ofChildren path cs with
  | ok t => exact summarized_ofChildren hcs h
  | error e => exact summarized_of_isLeaf rfl

/-- A file with lines and statistics. -/
def fileWith (path : String) (lineCount : Int) (stats : StatsVector) : Tree :=
  .node { path, isFile := true, lineCount, stats } []

/-- Folders in folders, with statistics that differ from file to file. -/
def sampleNested : Tree :=
  folderOf "n" [
    folderOf "n/a" [
      folderOf "n/a/b" [
        fileWith "n/a/b/x" 3 [{ occurrences := 2, dispersion := 0.5 }],
        fileWith "n/a/b/y" 8 [{ occurrences := 5, dispersion := 2.25 }, { occurrences := 1 }]],
      fileWith "n/a/z" 7 [{ occurrences := 1 }, { occurrences := 2, dispersion := 0.1 }]],
    folderOf "n/c" [fileWith "n/c/w" 0 []]]

theorem collapse_keeps_nodes_sampleNested :
    sampleNested.Summarized ∧ sampleNested.countNodes = 8 ∧
    ∃ r, sampleNested.collapse 3 = .ok r ∧ r.failure = none ∧
      ∀ a n, r.tree.get? a = some n → ∃ m, sampleNested.get? a = some m ∧
        n.info.lineCount = m.info.lineCount ∧ n.info.stats = m.info.stats ∧
        n.info = { m.info with isCollapsed := n.info.isCollapsed } := by
  have hfile : ∀ path lineCount stats, (fileWith path lineCount stats).Summarized :=
    fun _ _ _ => summarized_of_isLeaf rfl
  have hpair : ∀ path (c d : Tree), c.Summarized → d.Summarized →
      (folderOf path [c, d]).Summarized := by
    intro path c d hc hd
    exact summarized_folderOf (List.forall_mem_cons.2 ⟨hc, List.forall_mem_singleton.2 hd⟩)
  have hsum : sampleNested.Summarized := by
    apply hpair
    · apply hpair
      · exact hpair _ _ _ (hfile _ _ _) (hfile _ _ _)
      · exact hfile _ _ _
    · exact summarized_folderOf (List.forall_mem_singleton.2 (hfile _ _ _))
  have hsize : sampleNested.countNodes = 8 := by
    rw [countNodes_eq_size]
    decide +kernel
  exact ⟨hsum, hsize, collapse_keeps_nodes hsum (by decide)⟩

end SourceCensus.Tree
