import SourceCensus.Proofs.Collapse.Replay

/-! # The queue against a search

    The naive way to collapse a tree keeps no queue and no count. As long as a fresh count of the
    nodes exceeds the budget it looks for all nodes that can be merged, and merges the one with
    the fewest lines; of several it takes the one it found first (`Naive.run`).

    The loop with a queue makes the same merges in the same order (`collapse_eq_naive`). The two
    go in step: a candidate's number in the queue is its place among the nodes found by the naive
    loop (`Mirrors`), the first candidate is what the naive loop chooses (`Mirrors.choice_eq`),
    and after a merge both have found the same nodes (`Mirrors.mergeFirst`).
-/

namespace SourceCensus.Tree

open Collapsing

variable {t old new n m : Tree} {a b : Address} {s last : Collapsing} {c : Candidate}
  {rest : List Candidate} {budget : Int}

/-! ## The first of the least -/

section FirstLeast

variable {α : Type} {f : α → Int}

/-- Of the elements with the least value the first one. -/
def firstLeast (f : α → Int) : List α → Option α
  | [] => none
  | x :: xs =>
    match firstLeast f xs with
    | none => some x
    | some y => if f x ≤ f y then some x else some y

theorem mem_of_firstLeast {x : α} {xs : List α} (h : firstLeast f xs = some x) : x ∈ xs := by
  induction xs with
  | nil => cases h
  | cons z xs ih =>
    rw [firstLeast] at h
    cases hrest : firstLeast f xs with
    | none =>
      rw [hrest, Option.some.injEq] at h
      simp [h]
    | some y =>
      rw [hrest] at h
      dsimp only at h
      split at h
      · rw [Option.some.injEq] at h
        simp [h]
      · exact List.mem_cons_of_mem z (ih (hrest.trans h))

theorem firstLeast_append_cons {x : α} {before after : List α} (hbefore : ∀ y ∈ before, f x < f y)
    (hafter : ∀ y ∈ after, f x ≤ f y) : firstLeast f (before ++ x :: after) = some x := by
  induction before with
  | nil =>
    rw [List.nil_append, firstLeast]
    cases hrest : firstLeast f after with
    | none => rfl
    | some y => exact if_pos (hafter y (mem_of_firstLeast hrest))
  | cons z before ih =>
    have hz := hbefore z (by simp)
    rw [List.cons_append, firstLeast, ih fun y hy => hbefore y (by simp [hy])]
    exact if_neg (by omega)

end FirstLeast

/-! ## The naive loop -/

/-- Lines of the node at an address. -/
def linesAt (t : Tree) (a : Address) : Int := ((t.get? a).map (·.info.lineCount)).getD 0

/-- The naive loop at some moment. -/
structure Naive where
  /-- The tree so far. -/
  tree : Tree
  /-- The nodes found before now, in the order in which they were found, merged ones included. -/
  found : List Address
  /-- Addresses of the merged nodes, in order. -/
  merged : List Address

namespace Naive

/-- The nodes found by now: all nodes of the tree are searched in pre-order for new ones. -/
def discovered (p : Naive) : List Address :=
  p.found ++ p.tree.mergeable.filter fun a => a ∉ p.found

/-- The node to merge: of all that can be merged one with the fewest lines, of several the one
    found first. -/
def choice (p : Naive) : Option Address :=
  firstLeast (linesAt p.tree) (p.discovered.filter fun a => a ∈ p.tree.mergeable)

/-- Merges the chosen node as long as the tree has more nodes than the budget. -/
def run (budget : Int) (p : Naive) : Naive × Option MergeError :=
  if (p.tree.countNodes : Int) ≤ budget then (p, none)
  else match p.choice with
    | none => (p, none)
    | some a =>
      match _hold : p.tree.get? a with
      | none => (p, none)
      | some old =>
        match _hnew : old.merge with
        | .error e => (p, some e)
        | .ok new => run budget ⟨p.tree.replace a new, p.discovered, p.merged ++ [a]⟩
termination_by p.tree.size
decreasing_by
  have h1 : (p.tree.replace a new).size + old.size = p.tree.size + new.size := size_replace _hold
  have h2 := size_merge _hnew
  omega

/-- A turn of the naive loop that merges. -/
theorem run_eq_run {p : Naive} (hover : budget < p.tree.countNodes) (hchoice : p.choice = some a)
    (hold : p.tree.get? a = some old) (hnew : old.merge = .ok new) :
    p.run budget = run budget ⟨p.tree.replace a new, p.discovered, p.merged ++ [a]⟩ := by
  rw [run, if_neg (by omega), hchoice]
  dsimp only
  split
  -- each `match` takes the branch of what is known
  · rename_i hnone
    rw [hold] at hnone
    cases hnone
  · rename_i old' hold'
    rw [hold, Option.some.injEq] at hold'
    subst hold'
    split
    · rename_i e herror
      rw [hnew] at herror
      cases herror
    · rename_i new' hnew'
      rw [hnew, Except.ok.injEq] at hnew'
      rw [hnew']

end Naive

/-! ## Both loops in step -/

/-- The candidates are numbered by their places in a list of nodes that were found. -/
structure Numbered (found : List Address) (s : Collapsing) : Prop where
  length_eq : found.length = s.queued
  place : ∀ c ∈ s.queue, found[c.order]? = some c.address

theorem Numbered.push {found : List Address} (h : Numbered found s) (a : Address) (l : Int) :
    Numbered (found ++ [a]) (s.push a l) := by
  refine ⟨?_, ?_⟩
  · rw [List.length_append, h.length_eq]
    rfl
  · intro d hd
    rcases mem_queue_push.1 hd with rfl | hd
    · -- the new candidate has the number of the place at the end
      rw [← h.length_eq]
      exact List.getElem?_concat_length
    · have hplace := h.place d hd
      have hlt := (List.getElem?_eq_some_iff.1 hplace).1
      rwa [List.getElem?_append_left hlt]

theorem Numbered.pushAll {found : List Address} (h : Numbered found s) (as : List Address) :
    Numbered (found ++ as) (pushAll t as s) := by
  induction as generalizing found s with
  | nil => rwa [List.append_nil]
  | cons a as ih =>
    have := ih (h.push a (linesAt t a))
    rwa [List.append_assoc] at this

/-- The naive loop and the loop with a queue are at the same point. -/
structure Mirrors (p : Naive) (s : Collapsing) : Prop where
  tree_eq : p.tree = s.tree
  merged_eq : p.merged = s.merged
  numbered : Numbered p.discovered s
  /-- No node was found twice. -/
  distinct : p.discovered.Nodup
  /-- A node that was found and is still there can be merged or was merged. -/
  settled : ∀ a ∈ p.discovered, ∀ n, s.tree.get? a = some n → n.canMerge = true ∨ n.isLeaf = true

/-- The naive loop starts in step. -/
theorem mirrors_start (hlight : t.leafWeight < Number.twoTo 1000) :
    Mirrors ⟨t, [], []⟩ (startCollapsing t [] t) := by
  obtain ⟨-, -, htree, hmerged⟩ := start_spec hlight
  have hfound : Naive.discovered ⟨t, [], []⟩ = t.mergeable := by simp [Naive.discovered]
  refine ⟨htree.symm, hmerged.symm, ?_, ?_, ?_⟩
  · rw [hfound, startCollapsing_eq]
    have hnone : Numbered [] (unqueued t) := ⟨rfl, by simp [unqueued]⟩
    exact hnone.pushAll t.mergeable
  · rw [hfound]
    exact nodup_mergeable t
  · intro a ha n hn
    rw [hfound] at ha
    rw [htree] at hn
    obtain ⟨m, hm, hmerge⟩ := mem_mergeable_iff.1 ha
    rw [hn, Option.some.injEq] at hm
    exact .inl (hm ▸ hmerge)

/-! ## The choice -/

/-- A node that can be merged has a candidate with the lines it has now. -/
theorem exists_candidate (hs : s.Sound) (hc : s.Complete) (ha : a ∈ s.tree.mergeable) :
    ∃ d ∈ s.queue, d.address = a ∧ linesAt s.tree a = d.lineCount := by
  obtain ⟨d, hd, rfl⟩ := List.mem_map.1 (hc a ha)
  obtain ⟨n, hn, -, hlines⟩ := hs.ranked d hd
  exact ⟨d, hd, rfl, by rw [linesAt, hn, ← hlines]; rfl⟩

/-- **The first candidate is the naive choice.** -/
theorem Mirrors.choice_eq {p : Naive} (hm : Mirrors p s) (hs : s.Sound) (hc : s.Complete)
    (hqueue : s.queue = c :: rest) : p.choice = some c.address := by
  have hfirst : ∀ d ∈ s.queue, d = c ∨ c.before d = true := by
    intro d hd
    rw [hqueue] at hd
    exact (List.mem_cons.1 hd).imp_right (hs.first_before hqueue d)
  have hmem : c ∈ s.queue := by simp [hqueue]
  obtain ⟨old, hold, hmerge, hrank⟩ := hs.ranked c hmem
  have hself : c.address ∈ p.tree.mergeable := by
    rw [hm.tree_eq]
    exact mem_mergeable_iff.2 ⟨old, hold, hmerge⟩
  have hlines : linesAt s.tree c.address = c.lineCount := by
    rw [linesAt, hold, ← hrank]
    rfl
  -- the nodes found before the first candidate and those found after it
  have hplace := hm.numbered.place c hmem
  obtain ⟨hlt, hget⟩ := List.getElem?_eq_some_iff.1 hplace
  have hsplit : p.discovered =
      p.discovered.take c.order ++ c.address :: p.discovered.drop (c.order + 1) := by
    calc p.discovered
        = p.discovered.take c.order ++ p.discovered.drop c.order :=
          (List.take_append_drop _ _).symm
      _ = p.discovered.take c.order ++ c.address :: p.discovered.drop (c.order + 1) := by
          rw [List.drop_eq_getElem_cons hlt, hget]
  rw [Naive.choice, hsplit, List.filter_append, List.filter_cons_of_pos (by simpa using hself),
    hm.tree_eq]
  refine firstLeast_append_cons ?_ ?_
  · intro b hb
    obtain ⟨hb, hbm⟩ := List.mem_filter.1 hb
    obtain ⟨d, hd, hdb, hdl⟩ := exists_candidate hs hc (by simpa using hbm)
    -- it has a smaller number, so it comes first only with more lines
    obtain ⟨j, hj, hjb⟩ := List.mem_take_iff_getElem.1 hb
    have horder : j = d.order := by
      refine (List.getElem?_inj (by omega) hm.distinct).1 ?_
      rw [hm.numbered.place d hd, hdb, List.getElem?_eq_getElem (by omega), hjb]
    rw [hlines, hdl]
    rcases hfirst d hd with rfl | hbefore
    · omega
    · rw [Candidate.before_iff] at hbefore
      omega
  · intro b hb
    obtain ⟨hb, hbm⟩ := List.mem_filter.1 hb
    obtain ⟨d, hd, hdb, hdl⟩ := exists_candidate hs hc (by simpa using hbm)
    rw [hlines, hdl]
    rcases hfirst d hd with rfl | hbefore
    · exact Int.le_refl _
    · exact Candidate.lineCount_le_of_before hbefore

theorem Mirrors.choice_eq_none {p : Naive} (hm : Mirrors p s) (hs : s.Sound) (hc : s.Complete)
    (hqueue : s.queue = []) : p.choice = none := by
  have hnil := mergeable_eq_nil_of_queue hs.toOrderly hc hqueue
  have hnone : (p.discovered.filter fun a => a ∈ ([] : List Address)) = [] :=
    List.filter_eq_nil_iff.2 (by simp)
  rw [Naive.choice, hm.tree_eq, hnil, hnone, firstLeast]

/-! ## A merge keeps both loops in step -/

/-- The nodes that a merge adds to those found: the parent if the loop queues it, else none. -/
theorem Mirrors.found_next {p : Naive} (hm : Mirrors p s) (rest : List Candidate)
    (hc : s.Complete) (hl : s.tree.Linked) (hold : s.tree.get? c.address = some old)
    (hnew : old.merge = .ok new) :
    (s.mergeFirst c rest old new = s.replaceFirst c rest old new ∧
      ((s.tree.replace c.address new).mergeable.filter fun a => a ∉ p.discovered) = []) ∨
    ∃ b m, (s.tree.replace c.address new).get? b = some m ∧ m.canMerge = true ∧
      s.mergeFirst c rest old new = (s.replaceFirst c rest old new).push b m.info.lineCount ∧
      ((s.tree.replace c.address new).mergeable.filter fun a => a ∉ p.discovered) = [b] := by
  obtain ⟨hmerge, -, -, -⟩ := merge_eq_ok hnew
  -- only the parent of the merged node can be mergeable and not yet found
  have hfound : ∀ x, x ∈ ((s.tree.replace c.address new).mergeable.filter
      fun a => a ∉ p.discovered) ↔ ∃ m,
        (s.replaceFirst c rest old new).tree.parent? c.address = some (x, m) ∧
          m.canMerge = true := by
    intro x
    rw [List.mem_filter, decide_eq_true_eq]
    constructor
    · rintro ⟨hx, hfresh⟩
      rcases mergeable_replaceFirst hl hold hnew hx with ⟨-, hbefore⟩ | hparent
      · -- every candidate is among the nodes found
        obtain ⟨d, hd, rfl⟩ := List.mem_map.1 (hc x hbefore)
        exact absurd (List.mem_of_getElem? (hm.numbered.place d hd)) hfresh
      · exact hparent
    · rintro ⟨m, hparent, hmm⟩
      obtain ⟨i, -, hx, -, -, hget⟩ := parent?_eq_some_iff.1 hparent
      refine ⟨mem_mergeable_iff.2 ⟨m, hget, hmm⟩, ?_⟩
      -- before the merge the parent had a child with children
      intro hdiscovered
      rw [hx] at hold
      obtain ⟨k, hk, hko⟩ := exists_get?_of_append hold
      rcases hm.settled x hdiscovered k hk with hkm | hkl
      · rw [canMerge_of_get?_cons hko hmerge] at hkm
        cases hkm
      · rw [isLeaf_of_get?_cons hko] at hkl
        cases hkl
  rw [Collapsing.mergeFirst]
  rcases pushParent_cases (s.replaceFirst c rest old new) c.address with
    ⟨heq, hnone⟩ | ⟨b, m, hparent, hmm, heq⟩
  · -- the loop queues no parent, so there is none that can be merged
    refine .inl ⟨heq, List.eq_nil_iff_forall_not_mem.2 ?_⟩
    intro x hx
    obtain ⟨m, hparent, hmm⟩ := (hfound x).1 hx
    rw [hnone x m hparent] at hmm
    cases hmm
  · -- the loop queues the parent, and it is the one node that is found
    obtain ⟨i, -, -, -, -, hget⟩ := parent?_eq_some_iff.1 hparent
    refine .inr ⟨b, m, hget, hmm, heq, List.perm_singleton.1 ?_⟩
    refine (List.perm_ext_iff_of_nodup ((nodup_mergeable _).filter _) (by simp)).2 ?_
    intro x
    rw [hfound, List.mem_singleton]
    constructor
    · rintro ⟨k, hk, -⟩
      rw [hparent, Option.some.injEq, Prod.mk.injEq] at hk
      exact hk.1.symm
    · rintro rfl
      exact ⟨m, hparent, hmm⟩

theorem Numbered.replaceFirst {found : List Address} (h : Numbered found s)
    (hqueue : s.queue = c :: rest) : Numbered found (s.replaceFirst c rest old new) := by
  refine ⟨h.length_eq, ?_⟩
  intro d hd
  refine h.place d ?_
  rw [hqueue]
  exact List.mem_cons_of_mem c hd

/-- What was found and is still there after a merge can be merged or was merged. -/
theorem Mirrors.settled_replace {p : Naive} (hm : Mirrors p s)
    (hold : s.tree.get? c.address = some old) (hnew : old.merge = .ok new)
    (ha : a ∈ p.discovered) (hn : (s.tree.replace c.address new).get? a = some n) :
    n.canMerge = true ∨ n.isLeaf = true := by
  obtain ⟨hmerge, hleaf, -, -⟩ := merge_eq_ok hnew
  rcases get?_replace_leaf hold hleaf hn with
    ⟨-, rfl⟩ | ⟨-, hsame⟩ | ⟨m, i, r, -, hget, hbelow, -⟩
  · exact .inr hleaf
  · exact hm.settled a ha n hsame
  · -- no node above a candidate was found before
    rcases hm.settled a ha m hget with hmm | hml
    · rw [canMerge_of_get?_cons hbelow hmerge] at hmm
      cases hmm
    · rw [isLeaf_of_get?_cons hbelow] at hml
      cases hml

/-- **A merge keeps both loops in step.** -/
theorem Mirrors.mergeFirst {p : Naive} (hm : Mirrors p s) (hc : s.Complete) (hl : s.tree.Linked)
    (hqueue : s.queue = c :: rest) (hold : s.tree.get? c.address = some old)
    (hnew : old.merge = .ok new) :
    Mirrors ⟨p.tree.replace c.address new, p.discovered, p.merged ++ [c.address]⟩
      (s.mergeFirst c rest old new) := by
  have hnumbered : Numbered p.discovered (s.replaceFirst c rest old new) :=
    hm.numbered.replaceFirst hqueue
  rw [hm.tree_eq, hm.merged_eq]
  rcases hm.found_next rest hc hl hold hnew with
    ⟨heq, hnone⟩ | ⟨b, m, hget, hmm, heq, hone⟩
  · -- no node is found, and none is queued
    have hsame : Naive.discovered ⟨s.tree.replace c.address new, p.discovered,
        s.merged ++ [c.address]⟩ = p.discovered := by
      rw [Naive.discovered, hnone, List.append_nil]
    refine ⟨by simp, by simp, ?_, ?_, ?_⟩
    · -- the numbers that the queue gives are those of the discovery, as before
      rwa [hsame, heq]
    · rw [hsame]
      exact hm.distinct
    · intro a ha n hn
      rw [hsame] at ha
      rw [tree_mergeFirst] at hn
      exact hm.settled_replace hold hnew ha hn
  · -- the parent is found, and it gets the next number
    have hmore : Naive.discovered ⟨s.tree.replace c.address new, p.discovered,
        s.merged ++ [c.address]⟩ = p.discovered ++ [b] := by
      rw [Naive.discovered, hone]
    refine ⟨by simp, by simp, ?_, ?_, ?_⟩
    · rw [hmore, heq]
      exact hnumbered.push b _
    · -- it was not found before
      rw [hmore, List.nodup_append]
      refine ⟨hm.distinct, by simp, ?_⟩
      intro x hx y hy hxy
      rw [← hone, List.mem_filter, decide_eq_true_eq] at hy
      exact hy.2 (hxy ▸ hx)
    · -- the new node can be merged, and the others are settled as before
      intro a ha n hn
      rw [hmore] at ha
      rw [tree_mergeFirst] at hn
      rcases List.mem_append.1 ha with ha | ha
      · exact hm.settled_replace hold hnew ha hn
      · rw [List.mem_singleton.1 ha, hget, Option.some.injEq] at hn
        exact .inl (hn ▸ hmm)

/-! ## The run -/

/-- **The naive loop follows every run** of the loop with a queue to its end. -/
theorem Mirrors.run_eq {p : Naive} (h : Visits budget s last) (hm : Mirrors p s) (hs : s.Sound)
    (hc : s.Complete) (hl : s.tree.Linked) (hend : last.total ≤ budget ∨ last.queue = []) :
    ∃ found, p.run budget = (⟨last.tree, found, last.merged⟩, none) := by
  induction h generalizing p with
  | here s =>
    -- the loop has ended: the tree is within the budget, or nothing can be merged
    refine ⟨p.found, ?_⟩
    rw [← hm.tree_eq, ← hm.merged_eq, Naive.run]
    split
    · rfl
    · rename_i hover
      have hqueue : s.queue = [] := by
        refine hend.resolve_left ?_
        rw [hs.total_eq, ← countNodes_eq_size, ← hm.tree_eq]
        exact hover
      rw [hm.choice_eq_none hs hc hqueue]
  | @next s next last hturn hrest ih =>
    -- one turn of each loop merges the same node
    obtain ⟨c, rest, old, new, hover, hqueue, hold, hnew, rfl⟩ := turn_eq_go hturn
    have hnext := hm.mergeFirst hc hl hqueue hold hnew
    obtain ⟨found, hrun⟩ := ih hnext (hs.turn hturn) (hc.turn hl hturn) (linked_of_turn hl hturn)
      hend
    rw [hs.total_eq, ← countNodes_eq_size, ← hm.tree_eq] at hover
    rw [← hm.tree_eq] at hold
    exact ⟨found, (Naive.run_eq_run hover (hm.choice_eq hs hc hqueue) hold hnew).trans hrun⟩

/-! ## Collapsing -/

/-- **Collapsing makes the merges of the naive loop**, in the same order, and ends with the same
    tree. It merges no further than needed: the tree is within the budget at the end, and it was
    not before any of the merges. -/
theorem collapse_eq_naive (hl : t.Linked) (hlight : t.lineMagnitude < Number.twoTo 1000)
    (hb : 1 ≤ budget) :
    ∃ r found, t.collapse budget = .ok r ∧ r.failure = none ∧
      Naive.run budget ⟨t, [], []⟩ = (⟨r.tree, found, r.merged⟩, none) ∧
      t.mergeAll? r.merged = some r.tree ∧ (r.tree.countNodes : Int) ≤ budget ∧
      ∀ before a after, r.merged = before ++ a :: after →
        ∃ u, t.mergeAll? before = some u ∧ budget < u.countNodes := by
  have hweight : t.leafWeight < Number.twoTo 1000 :=
    Nat.lt_of_le_of_lt (leafWeight_le_lineMagnitude t) hlight
  obtain ⟨hsound, hcomplete, htree, -⟩ := start_spec hweight
  have hlinked : (startCollapsing t [] t).tree.Linked := htree.symm ▸ hl
  obtain ⟨r, last, hr, hvisits, hend, hrtree, hrmerged, hfailure, -⟩ := collapse_spec hweight hb
  obtain ⟨hlast, hlastComplete⟩ := invariants_of_visits hl hweight hvisits
  obtain ⟨found, hrun⟩ := (mirrors_start hweight).run_eq hvisits hsound hcomplete hlinked hend
  -- the first merges of the run, replayed, lead to trees that are over the budget
  obtain ⟨hreplay, hover⟩ := (replayed_start budget t).visits hvisits hsound.toOrderly
  have hmet := total_le_of_stuck hlast hlastComplete hb hend
  rw [hlast.total_eq, ← countNodes_eq_size] at hmet
  rw [← hrtree] at hrun hreplay hmet
  rw [← hrmerged] at hrun hreplay hover
  exact ⟨r, found, hr, hfailure, hrun, hreplay, hmet, hover⟩

/-- Lines that do not add up, some below zero, and folders with as many as others. -/
def sampleUnbalanced : Tree :=
  sampleFolder "q" 0 [
    sampleFolder "q/a" (-1) [sampleFile "q/a/x" 7],
    sampleFolder "q/b" 5 [
      sampleFolder "q/b/c" (-1) [sampleFile "q/b/c/y" (-9), sampleFile "q/b/c/z" 2],
      sampleFolder "q/b/d" (-6) [sampleFile "q/b/d/w" 4]]]

theorem collapse_eq_naive_sampleUnbalanced :
    sampleUnbalanced.Linked ∧ sampleUnbalanced.lineMagnitude < Number.twoTo 1000 ∧
    ∃ r found, sampleUnbalanced.collapse 3 = .ok r ∧ r.failure = none ∧
      Naive.run 3 ⟨sampleUnbalanced, [], []⟩ = (⟨r.tree, found, r.merged⟩, none) ∧
      sampleUnbalanced.mergeAll? r.merged = some r.tree ∧ (r.tree.countNodes : Int) ≤ 3 ∧
      ∀ before a after, r.merged = before ++ a :: after →
        ∃ u, sampleUnbalanced.mergeAll? before = some u ∧ (3 : Int) < u.countNodes := by
  have hl : sampleUnbalanced.Linked := by decide +kernel
  have hlight : sampleUnbalanced.lineMagnitude < Number.twoTo 1000 := by decide +kernel
  exact ⟨hl, hlight, collapse_eq_naive hl hlight (by decide)⟩

end SourceCensus.Tree
