import SourceCensus.Proofs.Collapse.Budget

/-! # Large folders keep their detail longest

    In a `Balanced` tree a folder has the lines of its children together, and no file has fewer
    than none. A merge then changes no number of lines, and a node never has more lines than a
    node above it. So a candidate that is queued by a merge has at least the lines of the merged
    node, and the lines of the merged nodes never decrease (`Ordered.turn`).

    At the end of a run every folder that still has children stands above a candidate, which has
    at least the lines of every merged node (`merged_le_remaining`).
-/

namespace SourceCensus.Tree

open Collapsing

variable {t old new n m : Tree} {a b : Address} {i : Nat} {budget : Int}

/-! ## Balanced trees -/

/-- A folder has as many lines as its children together, and no leaf has fewer than none. -/
def Balanced (t : Tree) : Prop := ∀ a n, t.get? a = some n →
  if n.isLeaf then 0 ≤ n.info.lineCount else n.info.lineCount = lineSum (n.children.map info)

instance : DecidablePred Balanced := fun _ => decidable_of_iff _ forall_nodes_iff

theorem Balanced.get? (ht : t.Balanced) (hn : t.get? a = some n) : n.Balanced := by
  intro b m hm
  refine ht (a ++ b) m ?_
  rw [get?_append_of_some hn, hm]

theorem Balanced.of_isLeaf (ht : t.Balanced) (hleaf : t.isLeaf = true) :
    0 ≤ t.info.lineCount := by
  have := ht [] t (get?_nil t)
  rwa [if_pos hleaf] at this

theorem Balanced.of_not_isLeaf (ht : t.Balanced) (hleaf : t.isLeaf = false) :
    t.info.lineCount = lineSum (t.children.map info) := by
  have := ht [] t (get?_nil t)
  rwa [if_neg (by simp [hleaf])] at this

theorem Balanced.child {c : Tree} {info : NodeInfo} {cs : List Tree}
    (ht : (Tree.node info cs).Balanced) (hc : c ∈ cs) : c.Balanced := by
  obtain ⟨i, hi⟩ := List.getElem?_of_mem hc
  have hget : (Tree.node info cs).get? [i] = some c := by
    rw [get?_cons, children, hi, Option.bind_some, get?_nil]
  exact ht.get? hget

mutual

/-- A node of a balanced tree has the lines of the leaves below it. -/
theorem Balanced.leafWeight_eq (t : Tree) (ht : t.Balanced) :
    (t.leafWeight : Int) = t.info.lineCount := by
  cases hleaf : t.isLeaf with
  | true =>
    -- without negative lines a leaf weighs what it carries
    have := ht.of_isLeaf hleaf
    rw [leafWeight, leaves_of_isLeaf hleaf, lineWeight_cons, lineWeight_nil]
    omega
  | false =>
    cases t with
    | node i cs =>
      rw [ht.of_not_isLeaf hleaf, leafWeight, leaves_of_not_isLeaf hleaf]
      exact lineWeight_leavesOf_eq cs fun c hc => ht.child hc

theorem lineWeight_leavesOf_eq (ts : List Tree) (hts : ∀ t ∈ ts, t.Balanced) :
    (lineWeight (leavesOf ts) : Int) = lineSum (ts.map info) := by
  cases ts with
  | nil => rfl
  | cons t ts =>
    have h1 := Balanced.leafWeight_eq t (hts t (by simp))
    have h2 := lineWeight_leavesOf_eq ts fun u hu => hts u (by simp [hu])
    rw [leafWeight] at h1
    rw [leavesOf, lineWeight_append, List.map_cons, lineSum_cons]
    omega

end

/-- **A node has no more lines than a node above it.** -/
theorem Balanced.lineCount_le (ht : t.Balanced) (hn : t.get? a = some n) :
    n.info.lineCount ≤ t.info.lineCount := by
  have h1 := ht.leafWeight_eq
  have h2 := (ht.get? hn).leafWeight_eq
  have hle := leafWeight_le_of_get? hn
  omega

/-! ## Merging in a balanced tree -/

theorem Balanced.lineCount_merge (ht : t.Balanced) (h : t.merge = .ok new) :
    new.info.lineCount = t.info.lineCount := by
  obtain ⟨hmerge, -, -, hlines⟩ := merge_eq_ok h
  rw [hlines, ht.of_not_isLeaf (isLeaf_of_canMerge hmerge)]

/-- A node that has as many lines as the one it takes the place of leaves the sums above it. -/
theorem lineSum_replace_cons (hold : m.get? (i :: a) = some old)
    (hlines : new.info.lineCount = old.info.lineCount) :
    lineSum ((m.replace (i :: a) new).children.map info) = lineSum (m.children.map info) := by
  have hmap := map_children_replace_cons (f := (·.lineCount)) hold hlines
  simp only [lineSum, List.map_map, Function.comp_def]
  rw [hmap]

/-- **Lines stay.** When a node becomes a leaf with as many lines, the tree stays balanced, and
    no other node has got more or fewer. -/
theorem Balanced.replace_leaf (ht : t.Balanced) (hold : t.get? a = some old)
    (hleaf : new.isLeaf = true) (hlines : new.info.lineCount = old.info.lineCount) :
    (t.replace a new).Balanced ∧ ∀ b n, (t.replace a new).get? b = some n →
      ∃ m, t.get? b = some m ∧ m.info.lineCount = n.info.lineCount := by
  constructor
  · intro b n hn
    rcases get?_replace_leaf hold hleaf hn with
      ⟨rfl, rfl⟩ | ⟨-, hsame⟩ | ⟨m, i, r, rfl, hm, hold, rfl⟩
    · -- the leaf stands for as many lines as what was below the old node
      have := (ht.get? hold).leafWeight_eq
      rw [if_pos hleaf]
      omega
    · exact ht b n hsame
    · -- above the leaf no node gains or loses a child
      have hfolder := isLeaf_of_get?_cons hold
      rw [isLeaf_replace_cons, info_replace_cons, lineSum_replace_cons hold hlines, hfolder]
      exact (ht.get? hm).of_not_isLeaf hfolder
  · intro b n hn
    rcases get?_replace_leaf hold hleaf hn with
      ⟨rfl, rfl⟩ | ⟨-, hsame⟩ | ⟨m, i, r, rfl, hm, -, rfl⟩
    · exact ⟨old, hold, hlines.symm⟩
    · exact ⟨n, hsame, rfl⟩
    · exact ⟨m, hm, by rw [info_replace_cons]⟩

/-! ## The order of merges -/

/-- What holds of the lines in every turn, for a tree that was `t` at the start. -/
structure Ordered (t : Tree) (s : Collapsing) : Prop where
  balanced : s.tree.Balanced
  /-- A node that is still there has the lines it had. -/
  kept : ∀ a n, s.tree.get? a = some n →
    ∃ m, t.get? a = some m ∧ m.info.lineCount = n.info.lineCount
  /-- No candidate has fewer lines than a merged node. -/
  least : ∀ a ∈ s.merged, ∃ m, t.get? a = some m ∧ ∀ c ∈ s.queue, m.info.lineCount ≤ c.lineCount

/-- What a turn puts in the queue: some of the candidates it had, and the parent of the merged
    node. -/
theorem mem_queue_mergeFirst {s : Collapsing} {c d : Candidate} {rest : List Candidate}
    (hd : d ∈ (s.mergeFirst c rest old new).queue) :
    d ∈ rest ∨ ∃ b m, (s.tree.replace c.address new).parent? c.address = some (b, m) ∧
      d.lineCount = m.info.lineCount := by
  rw [mergeFirst] at hd
  rcases pushParent_cases (s.replaceFirst c rest old new) c.address with
    ⟨heq, -⟩ | ⟨b, m, hparent, -, heq⟩
  · rw [heq] at hd
    exact .inl hd
  · rw [heq] at hd
    rcases mem_queue_push.1 hd with rfl | hd
    · exact .inr ⟨b, m, hparent, rfl⟩
    · exact .inl hd

/-- **A turn keeps the order of merges**: it merges a node with the fewest lines, and the one
    candidate it adds stands above that node. -/
theorem Ordered.turn {s next : Collapsing} (ho : Ordered t s) (hs : s.Sound)
    (h : s.turn budget = .go next) : Ordered t next := by
  obtain ⟨c, rest, old, new, -, hqueue, hold, hnew, rfl⟩ := turn_eq_go h
  obtain ⟨-, hleaf, -, -⟩ := merge_eq_ok hnew
  have hlines := (ho.balanced.get? hold).lineCount_merge hnew
  obtain ⟨hbalanced, hsame⟩ := ho.balanced.replace_leaf hold hleaf hlines
  have hrank := hs.lineCount_first hqueue hold
  -- nothing in the queue is below the merged node
  have hqueued : ∀ d ∈ (s.mergeFirst c rest old new).queue, c.lineCount ≤ d.lineCount := by
    intro d hd
    rcases mem_queue_mergeFirst hd with hd | ⟨b, m, hparent, hdm⟩
    · exact Candidate.lineCount_le_of_before (hs.first_before hqueue d hd)
    · -- the parent of the merged node has no fewer lines than that node
      obtain ⟨i, -, hb, -, -, hm⟩ := parent?_eq_some_iff.1 hparent
      have hbelow : m.get? [i] = some new := by
        rw [← get?_append_of_some hm, ← hb]
        exact get?_replace_self hold new
      have := (hbalanced.get? hm).lineCount_le hbelow
      omega
  refine ⟨by rwa [tree_mergeFirst], ?_, ?_⟩
  · -- no node has other lines than at the start
    intro b n hn
    rw [tree_mergeFirst] at hn
    obtain ⟨m, hm, hmn⟩ := hsame b n hn
    obtain ⟨k, hk, hkm⟩ := ho.kept b m hm
    exact ⟨k, hk, hkm.trans hmn⟩
  · intro a ha
    rw [merged_mergeFirst] at ha
    rcases List.mem_append.1 ha with ha | ha
    · -- merged before: it had at most the lines of the first candidate
      obtain ⟨m, hm, hle⟩ := ho.least a ha
      refine ⟨m, hm, ?_⟩
      intro d hd
      have h1 := hle c (by simp [hqueue])
      have h2 := hqueued d hd
      omega
    · -- merged in this turn, with the lines it had at the start
      rw [List.mem_singleton.1 ha]
      obtain ⟨m, hm, hmo⟩ := ho.kept c.address old hold
      refine ⟨m, hm, ?_⟩
      intro d hd
      have := hqueued d hd
      omega

theorem ordered_start (hbal : t.Balanced) (hlight : t.leafWeight < Number.twoTo 1000) :
    Ordered t (startCollapsing t [] t) := by
  obtain ⟨-, -, htree, hmerged⟩ := start_spec hlight
  refine ⟨htree.symm ▸ hbal, ?_, by simp [hmerged]⟩
  intro a n hn
  rw [htree] at hn
  exact ⟨n, hn, rfl⟩

theorem Ordered.visits {s last : Collapsing} (h : Visits budget s last) (ho : Ordered t s)
    (hs : s.Sound) : Ordered t last := by
  have hboth := h.invariant (P := fun s => Ordered t s ∧ s.Sound) ⟨ho, hs⟩
    fun hs h => ⟨hs.1.turn hs.2 h, hs.2.turn h⟩
  exact hboth.1

/-- A folder has at least the lines of some candidate below it. -/
theorem exists_candidate_below {s : Collapsing} (ho : Ordered t s) (hs : s.Sound)
    (hc : s.Complete) (hn : s.tree.get? b = some n) (hfolder : n.isLeaf = false) :
    ∃ c ∈ s.queue, c.lineCount ≤ n.info.lineCount := by
  obtain ⟨r, m, hm, hmerge⟩ := exists_mergeable n hfolder
  have hget : s.tree.get? (b ++ r) = some m := by rw [get?_append_of_some hn, hm]
  have hqueued := hc (b ++ r) (mem_mergeable_iff.2 ⟨m, hget, hmerge⟩)
  obtain ⟨c, hcq, hcb⟩ := List.mem_map.1 hqueued
  obtain ⟨k, hk, -, hlines⟩ := hs.ranked c hcq
  rw [hcb, hget, Option.some.injEq] at hk
  subst hk
  have := (ho.balanced.get? hn).lineCount_le hm
  exact ⟨c, hcq, by omega⟩

/-- **The largest folders are left.** A merged node, also one that was absorbed later, has at
    most the lines of each folder that still has children at the end. In the whole run no node
    of the tree has other lines than at the start. -/
theorem merged_le_remaining (hl : t.Linked) (hbal : t.Balanced)
    (hlight : t.info.lineCount < Number.twoTo 1000) (hb : 1 ≤ budget) :
    (∃ r, t.collapse budget = .ok r ∧ r.failure = none ∧
      ∀ a ∈ r.merged, ∃ m, t.get? a = some m ∧
        ∀ b n, r.tree.get? b = some n → n.isLeaf = false →
          m.info.lineCount ≤ n.info.lineCount) ∧
    ∀ s, Visits budget (startCollapsing t [] t) s → ∀ a n, s.tree.get? a = some n →
      ∃ m, t.get? a = some m ∧ m.info.lineCount = n.info.lineCount := by
  have hweight : t.leafWeight < Number.twoTo 1000 := by
    have := hbal.leafWeight_eq
    omega
  have hordered : ∀ s, Visits budget (startCollapsing t [] t) s → Ordered t s :=
    fun s hvisits => (ordered_start hbal hweight).visits hvisits (start_spec hweight).1
  constructor
  · -- the run ends in a state in which a candidate waits below each folder that is left
    obtain ⟨r, last, hr, hvisits, -, hrtree, hrmerged, hfailure, -⟩ := collapse_spec hweight hb
    obtain ⟨hsound, hcomplete⟩ := invariants_of_visits hl hweight hvisits
    refine ⟨r, hr, hfailure, ?_⟩
    intro a ha
    rw [hrmerged] at ha
    have ho := hordered last hvisits
    obtain ⟨m, hm, hle⟩ := ho.least a ha
    refine ⟨m, hm, ?_⟩
    intro b n hn hfolder
    rw [hrtree] at hn
    -- a candidate between the merged node and the folder that is left
    obtain ⟨c, hc, hcn⟩ := exists_candidate_below ho hsound hcomplete hn hfolder
    have := hle c hc
    omega
  · intro s hvisits
    exact (hordered s hvisits).kept

theorem merged_le_remaining_sampleProject :
    sampleProject.Linked ∧ sampleProject.Balanced ∧
    sampleProject.info.lineCount < Number.twoTo 1000 ∧
    (∃ r, sampleProject.collapse 5 = .ok r ∧ r.failure = none ∧
      ∀ a ∈ r.merged, ∃ m, sampleProject.get? a = some m ∧
        ∀ b n, r.tree.get? b = some n → n.isLeaf = false →
          m.info.lineCount ≤ n.info.lineCount) ∧
    ∀ s, Visits 5 (startCollapsing sampleProject [] sampleProject) s →
      ∀ a n, s.tree.get? a = some n →
        ∃ m, sampleProject.get? a = some m ∧ m.info.lineCount = n.info.lineCount := by
  have hl : sampleProject.Linked := by decide +kernel
  have hbal : sampleProject.Balanced := by decide +kernel
  have hlight : sampleProject.info.lineCount < Number.twoTo 1000 := by decide +kernel
  exact ⟨hl, hbal, hlight, merged_le_remaining hl hbal hlight (by decide)⟩

end SourceCensus.Tree
