import SourceCensus.Proofs.Collapse.Pruning

/-! # Merging in place

    `mergeChildren` changes a tree step by step: it looks whether the node can be merged, computes
    what the leaf carries, and only then makes its changes. So a merge that fails has changed
    nothing (`run_mergeChildren_of_error`), and one that succeeds has put the merged leaf in the
    place of the node (`run_mergeChildren_of_ok`). A turn of the loop is such a merge
    (`turn_merges_in_place`).

    It is refused for a node without children and for one with a child that has children, and for
    no other, as long as the lines have doubles. What it makes of the tree is said address by
    address (`MergedAt`): the node is a leaf, the nodes below it are gone, all others are as they
    were, and every count that the node went into is smaller by the number that was given back.
-/

namespace SourceCensus.Tree

variable {t n m old new u : Tree} {a b : Address} {f g : Tree → Tree} {log : List LogEntry}
  {e : MergeError}

/-! ## Changes at an address -/

theorem changeAt_eq (h : t.get? a = some n) (f : Tree → Tree) :
    t.changeAt a f = t.replace a (f n) := by
  rw [changeAt, h]

/-- Two changes of one node are one change. -/
theorem changeAt_changeAt (t : Tree) (a : Address) (f g : Tree → Tree) :
    (t.changeAt a f).changeAt a g = t.changeAt a fun n => g (f n) := by
  cases h : t.get? a with
  | none =>
    have hsame : ∀ f : Tree → Tree, t.changeAt a f = t := fun f => by rw [changeAt, h]
    rw [hsame, hsame, hsame]
  | some n =>
    have hself : (t.replace a (f n)).get? a = some (f n) := get?_replace_self h (f n)
    have htwice := replace_replace_append h (f n) (g (f n)) []
    rw [List.append_nil, replace_nil] at htwice
    rw [changeAt_eq h, changeAt_eq hself, changeAt_eq h, htwice]

/-! ## The run of a merge -/

/-- **A merge that fails changes nothing.** -/
theorem run_mergeChildren_of_error (h : n.merge = .error e) :
    (mergeChildren a n).run.run ⟨t, log⟩ = (.error e, ⟨t, log⟩) := by
  unfold merge mergedInfo at h
  unfold mergeChildren
  -- each reason to refuse the merge stops the steps in place before they change anything
  by_cases hleaf : n.isLeaf = true
  · rw [if_pos hleaf] at h ⊢
    cases h
    rfl
  · rw [if_neg hleaf] at h ⊢
    by_cases hmerge : (!n.canMerge) = true
    · rw [if_pos hmerge] at h ⊢
      cases h
      rfl
    · rw [if_neg hmerge] at h ⊢
      cases hstats : mergeStats (n.children.map fun c => (c.info.lineCount, c.info.stats)) with
      | error e' =>
        rw [hstats] at h
        cases h
        rfl
      | ok merged =>
        rw [hstats] at h
        cases h

/-- **A merge that succeeds** puts the merged leaf in the place of the node. -/
theorem run_mergeChildren_of_ok (h : t.get? a = some n) (hnew : n.merge = .ok new) :
    (mergeChildren a n).run.run ⟨t, log⟩ =
      (.ok n.children.length, ⟨t.replace a new, log ++ [mergeReport n new]⟩) := by
  obtain ⟨hmerge, ⟨lineCount, stats⟩, hstats, rfl⟩ := merge_eq_ok_iff.1 hnew
  have hfolder : ¬ n.isLeaf = true := by simp [isLeaf_of_canMerge hmerge]
  have hleaves : ¬ (!n.canMerge) = true := by simp [hmerge]
  -- what is carried, the children and the mark are changed one after the other
  have hchanges : ((t.changeAt a fun m => m.withInfo { m.info with lineCount, stats }).changeAt a
      fun m => .node m.info []).changeAt a (fun m => m.withInfo { m.info with isCollapsed := true })
      = t.replace a (n.mergedLeaf (lineCount, stats)) := by
    rw [changeAt_changeAt, changeAt_changeAt, changeAt_eq h]
    cases n
    rfl
  unfold parts at hstats
  unfold mergeChildren
  rw [if_neg hfolder, if_neg hleaves, hstats, ← hchanges]
  rfl

/-- **The loop merges in place.** A turn that goes on makes the merge of its candidate in place, and
    takes the number that is given back from the count. -/
theorem turn_merges_in_place {s next : Collapsing} {budget : Int} (h : s.turn budget = .go next) :
    ∃ (c : Candidate) (old : Tree) (removed : Nat), s.tree.get? c.address = some old ∧
      (mergeChildren c.address old).run.run ⟨s.tree, s.log⟩ =
        (.ok removed, ⟨next.tree, next.log⟩) ∧
      next.total = s.total - removed := by
  obtain ⟨c, rest, old, new, -, -, hold, hnew, rfl⟩ := Collapsing.turn_eq_go h
  refine ⟨c, old, old.children.length, hold, ?_⟩
  rw [run_mergeChildren_of_ok hold hnew, Collapsing.mergeFirst]
  -- queueing the parent touches neither the tree nor the log nor the count
  rcases Collapsing.pushParent_cases (s.replaceFirst c rest old new) c.address with
    ⟨heq, -⟩ | ⟨b, m, -, -, heq⟩
  · rw [heq]
    exact ⟨rfl, rfl⟩
  · rw [heq]
    exact ⟨rfl, rfl⟩

/-! ## When a merge is refused -/

theorem merge_of_isLeaf (h : n.isLeaf = true) : n.merge = .error (.noChildren n.info.path) := by
  rw [merge, if_pos h]

theorem merge_of_folderInside {c : Tree} (hc : c ∈ n.children) (hfolder : c.children ≠ []) :
    n.merge = .error (.nonLeafChild n.info.path) := by
  have hleaf : ¬ n.isLeaf = true := by
    intro hleaf
    rw [isLeaf_iff.1 hleaf] at hc
    cases hc
  have hmerge : (!n.canMerge) = true := by
    rw [Bool.not_eq_true', ← Bool.not_eq_true, canMerge_iff]
    intro hall
    exact hfolder (isLeaf_iff.1 (hall.2 c hc))
  rw [merge, if_neg hleaf, if_pos hmerge]

/-! ## What a merge makes of a tree -/

/-- What is left of the tree `t` when the node `n` at the address `a` is merged: the tree `u`, from
    which `removed` nodes are gone. -/
structure MergedAt (t : Tree) (a : Address) (n u : Tree) (removed : Nat) : Prop where
  /-- The node has become a leaf with the mark of a merge. It has its path and its kind, and
      carries what its children came to. -/
  leaf : ∃ new, u.get? a = some new ∧ new.children = [] ∧ new.info.isCollapsed = true ∧
    new.info.path = n.info.path ∧ new.info.isFile = n.info.isFile ∧
    mergeStats (n.children.map fun c => (c.info.lineCount, c.info.stats)) =
      .ok (new.info.lineCount, new.info.stats)
  /-- Below it nothing is left. -/
  below : ∀ b, Below b a → u.get? b = none
  /-- Every other node is as it was. -/
  others : ∀ b m, ¬ a <+: b → t.get? b = some m → ∃ k, u.get? b = some k ∧ SameNode k m
  /-- No node is new. -/
  noneNew : ∀ b k, u.get? b = some k → ∃ m, t.get? b = some m
  /-- The node itself and every node above it count fewer nodes, by the number that are gone. -/
  counts : ∀ b m, b <+: a → t.get? b = some m →
    ∃ k, u.get? b = some k ∧ k.countNodes + removed = m.countNodes

/-- The count of a node at or above a merged one goes down by the number of its children. -/
theorem countNodes_replace_merged (hn : m.get? b = some n) (hnew : n.merge = .ok new) :
    (m.replace b new).countNodes + n.children.length = m.countNodes := by
  obtain ⟨hmerge, hleaf, -, -⟩ := merge_eq_ok hnew
  have hsizes : (m.replace b new).size + n.size = m.size + new.size := size_replace hn
  rw [size_of_canMerge hmerge, size_of_isLeaf hleaf] at hsizes
  rw [countNodes_eq_size, countNodes_eq_size]
  omega

/-- **A merge that succeeds** changes the node, takes away what was below it, and leaves all
    else. -/
theorem mergedAt_of_ok (h : t.get? a = some n) (hnew : n.merge = .ok new) :
    MergedAt t a n (t.replace a new) n.children.length := by
  have hpruned : Pruned t (t.replace a new) [a] :=
    (pruned_refl t).mergeAt? (mergeAt?_eq_some_iff.2 ⟨n, new, h, hnew, rfl⟩)
  refine ⟨?_, ?_, ?_, ?_, ?_⟩
  · -- the node itself is the merged leaf
    obtain ⟨-, merged, hstats, hleaf⟩ := merge_eq_ok_iff.1 hnew
    rw [hleaf]
    exact ⟨_, get?_replace_self h _, rfl, rfl, rfl, rfl, hstats⟩
  · intro b hb
    cases hm : t.get? b with
    | some m => exact (hpruned.gone b m hm).2 ⟨a, List.mem_singleton_self a, hb⟩
    | none =>
      -- a node that was not there has not come
      cases hk : (t.replace a new).get? b with
      | none => rfl
      | some k =>
        obtain ⟨m, hm', -⟩ := hpruned.kept b k hk
        rw [hm] at hm'
        cases hm'
  · -- a node that is not below the merged one is left, and it was not merged
    intro b m hout hm
    have hleft : (t.replace a new).get? b ≠ none := by
      intro hnone
      obtain ⟨c, hc, hbelow⟩ := (hpruned.gone b m hm).1 hnone
      rw [List.mem_singleton.1 hc] at hbelow
      exact hout hbelow.1
    obtain ⟨k, hk⟩ := Option.ne_none_iff_exists'.1 hleft
    obtain ⟨m', hm', -, -, hcases⟩ := hpruned.kept b k hk
    rw [hm, Option.some.injEq] at hm'
    subst hm'
    rcases hcases with ⟨hmem, -⟩ | ⟨-, hsame⟩
    · exact absurd (List.mem_singleton.1 hmem ▸ List.prefix_rfl) hout
    · exact ⟨k, hk, hsame⟩
  · intro b k hk
    obtain ⟨m, hm, -⟩ := hpruned.kept b k hk
    exact ⟨m, hm⟩
  · -- a node above it still has it below, where two trees of known sizes are exchanged
    intro b m hb hm
    obtain ⟨r, rfl⟩ := hb
    rw [get?_append_of_some hm] at h
    exact ⟨m.replace r new, get?_replace_above hm r new, countNodes_replace_merged h hnew⟩

/-- **A merge in place is all or nothing.** Where the lines of the children and their sum have
    doubles, it is refused for a node without children and for one with a child that has children,
    and for no other; the error says which of the two it is, and the tree and the log are as they
    were. Otherwise the node becomes a leaf that stands for its children, all else stays, and the
    number that is given back is missing in the count of every node from the top to this one. -/
theorem merge_all_or_nothing (h : t.get? a = some n)
    (hlines : ∀ c ∈ n.children, InRange c.info.lineCount)
    (hsum : InRange (lineSum (n.children.map info))) (log : List LogEntry) :
    ∃ outcome after, (mergeChildren a n).run.run ⟨t, log⟩ = (outcome, after) ∧
      ((∃ e, outcome = .error e) ↔ n.children = [] ∨ ∃ c ∈ n.children, c.children ≠ []) ∧
      (n.children = [] → outcome = .error (.noChildren n.info.path)) ∧
      ((∃ c ∈ n.children, c.children ≠ []) → outcome = .error (.nonLeafChild n.info.path)) ∧
      (∀ e, outcome = .error e → after = ⟨t, log⟩) ∧
      ∀ removed, outcome = .ok removed → MergedAt t a n after.tree removed := by
  by_cases hleaf : n.children = []
  · -- a node without children is refused
    have hrun : (mergeChildren a n).run.run ⟨t, log⟩ = _ :=
      run_mergeChildren_of_error (merge_of_isLeaf (isLeaf_iff.2 hleaf))
    refine ⟨_, _, hrun, iff_of_true ⟨_, rfl⟩ (.inl hleaf), fun _ => rfl, ?_, fun _ _ => rfl, nofun⟩
    intro hfolder
    obtain ⟨c, hc, -⟩ := hfolder
    rw [hleaf] at hc
    cases hc
  · by_cases hfolder : ∃ c ∈ n.children, c.children ≠ []
    · -- and so is one with a folder inside
      obtain ⟨c, hc, hinside⟩ := hfolder
      have hrun : (mergeChildren a n).run.run ⟨t, log⟩ = _ :=
        run_mergeChildren_of_error (merge_of_folderInside hc hinside)
      exact ⟨_, _, hrun, iff_of_true ⟨_, rfl⟩ (.inr ⟨c, hc, hinside⟩),
        fun hnil => absurd hnil hleaf, fun _ => rfl, fun _ _ => rfl, nofun⟩
    · -- children that are all leaves are merged, since their lines have doubles
      have hmerge : n.canMerge = true := by
        refine canMerge_iff.2 ⟨hleaf, ?_⟩
        intro c hc
        by_contra hcontra
        exact hfolder ⟨c, hc, fun hnil => hcontra (isLeaf_iff.2 hnil)⟩
      have hparts : ∀ part ∈ n.parts, InRange part.1 := by
        intro part hpart
        obtain ⟨c, hc, rfl⟩ := List.mem_map.1 hpart
        exact hlines c hc
      rw [← lineSum_children] at hsum
      obtain ⟨merged, hmerged⟩ := mergeStats_of_inRange hparts hsum
      have hnew : n.merge = .ok (n.mergedLeaf merged) :=
        merge_eq_ok_iff.2 ⟨hmerge, merged, hmerged, rfl⟩
      refine ⟨_, _, run_mergeChildren_of_ok h hnew, iff_of_false nofun (not_or.2 ⟨hleaf, hfolder⟩),
        fun hnil => absurd hnil hleaf, fun hinside => absurd hinside hfolder, nofun, ?_⟩
      intro removed hremoved
      cases hremoved
      exact mergedAt_of_ok h hnew

theorem merge_all_or_nothing_sampleHalfLinked :
    ∃ n, sampleHalfLinked.get? [0, 0] = some n ∧ (∀ c ∈ n.children, InRange c.info.lineCount) ∧
      InRange (lineSum (n.children.map info)) ∧ n.children.length = 2 ∧
      ∃ outcome after, (mergeChildren [0, 0] n).run.run ⟨sampleHalfLinked, []⟩ = (outcome, after) ∧
        ((∃ e, outcome = .error e) ↔ n.children = [] ∨ ∃ c ∈ n.children, c.children ≠ []) ∧
        (n.children = [] → outcome = .error (.noChildren n.info.path)) ∧
        ((∃ c ∈ n.children, c.children ≠ []) → outcome = .error (.nonLeafChild n.info.path)) ∧
        (∀ e, outcome = .error e → after = ⟨sampleHalfLinked, []⟩) ∧
        ∀ removed, outcome = .ok removed →
          MergedAt sampleHalfLinked [0, 0] n after.tree removed := by
  obtain ⟨n, hn, hcs⟩ : ∃ n, sampleHalfLinked.get? [0, 0] = some n ∧
      n.children = [sampleFile "h/a/b/x" 1, sampleFile "h/a/b/y" 1] := ⟨_, rfl, rfl⟩
  have hlines : ∀ c ∈ n.children, InRange c.info.lineCount := by
    intro c hc
    rw [hcs] at hc
    have hone : c.info.lineCount = 1 := by
      rcases List.mem_cons.1 hc with rfl | hc
      · rfl
      · rw [List.mem_singleton.1 hc]
        rfl
    rw [hone]
    exact toDouble_of_lt (by decide +kernel)
  have hsum : InRange (lineSum (n.children.map info)) := by
    have htwo : lineSum (n.children.map info) = 2 := by
      rw [hcs]
      rfl
    rw [htwo]
    exact toDouble_of_lt (by decide +kernel)
  exact ⟨n, hn, hlines, hsum, by rw [hcs]; rfl, merge_all_or_nothing hn hlines hsum []⟩

end SourceCensus.Tree
