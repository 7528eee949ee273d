import SourceCensus.Proofs.Collapse.Queue
import SourceCensus.Proofs.Tree.Merging

/-! # What holds in every turn of the loop

    `Orderly` says what the loop may rely on whatever links the tree has: the number of nodes is
    right, every candidate can be merged and is ranked by the lines it has, and the queue is in
    order and holds no node twice. `Sound` adds that the numbers of lines are small enough for
    every merge to succeed. `Complete` says that no node that can be merged is missing from the
    queue; it needs every child to know its parent, since the loop finds the parent of a merged
    node by that link alone.

    All are kept by every turn (`Orderly.turn`, `Sound.turn`, `Complete.turn`). A run in which no
    merge fails ends with the budget met or the queue empty (`run_of_invariant`), and with a
    complete queue the budget is always met (`total_le_of_stuck`).
-/

namespace SourceCensus.Tree.Collapsing

variable {s next last : Collapsing} {c : Candidate} {rest : List Candidate} {old new n : Tree}
  {a : Address} {budget : Int}

/-! ## The invariants -/

/-- The addresses of the candidates, in their order. -/
def queuedAddresses (s : Collapsing) : List Address := s.queue.map (·.address)

/-- What the loop relies on in every turn. -/
structure Orderly (s : Collapsing) : Prop where
  /-- The number of nodes is not counted again, and still right. -/
  total_eq : s.total = s.tree.size
  /-- A candidate can be merged, and its rank is up to date. -/
  ranked : ∀ c ∈ s.queue, ∃ n, s.tree.get? c.address = some n ∧ n.canMerge = true ∧
    n.info.lineCount = c.lineCount
  /-- The queue is in order. -/
  sorted : s.queue.Pairwise fun c d => c.before d = true
  /-- No node is queued twice. -/
  distinct : s.queuedAddresses.Nodup
  /-- Every candidate was queued before now. -/
  earlier : ∀ c ∈ s.queue, c.order < s.queued
  /-- So far only merges were reported. -/
  quiet : ∀ e ∈ s.log, e.severity = .debug

/-- An orderly loop in which no merge can fail. -/
structure Sound (s : Collapsing) : Prop extends s.Orderly where
  /-- All numbers of lines have doubles, also after any merges. -/
  light : s.tree.leafWeight < Number.twoTo 1000

/-- Every node that can be merged is queued. -/
def Complete (s : Collapsing) : Prop := ∀ a ∈ s.tree.mergeable, a ∈ s.queuedAddresses

/-- A complete queue holds exactly the nodes that can be merged. -/
theorem Orderly.perm_mergeable (hs : s.Orderly) (hc : s.Complete) :
    s.queuedAddresses.Perm s.tree.mergeable := by
  refine (List.perm_ext_iff_of_nodup hs.distinct (nodup_mergeable _)).2 fun a => ⟨?_, hc a⟩
  intro ha
  obtain ⟨c, hmem, rfl⟩ := List.mem_map.1 ha
  obtain ⟨n, hn, hmerge, -⟩ := hs.ranked c hmem
  exact mem_mergeable_iff.2 ⟨n, hn, hmerge⟩

theorem perm_mergeable (hs : s.Sound) (hc : s.Complete) :
    s.queuedAddresses.Perm s.tree.mergeable := hs.toOrderly.perm_mergeable hc

/-! ## Queueing a node -/

@[simp] theorem tree_push (s : Collapsing) (a : Address) (l : Int) : (s.push a l).tree = s.tree :=
  rfl

theorem perm_queuedAddresses_push (s : Collapsing) (a : Address) (l : Int) :
    (s.push a l).queuedAddresses.Perm (a :: s.queuedAddresses) :=
  (perm_enqueue ⟨l, s.queued, a⟩ s.queue).map _

theorem mem_queue_push {l : Int} {d : Candidate} :
    d ∈ (s.push a l).queue ↔ d = ⟨l, s.queued, a⟩ ∨ d ∈ s.queue := mem_enqueue_iff

theorem Orderly.push (hs : s.Orderly) (hn : s.tree.get? a = some n) (hmerge : n.canMerge = true)
    (hfresh : a ∉ s.queuedAddresses) : (s.push a n.info.lineCount).Orderly where
  total_eq := hs.total_eq
  ranked := by
    intro d hd
    rcases mem_queue_push.1 hd with rfl | hd
    · exact ⟨n, hn, hmerge, rfl⟩
    · exact hs.ranked d hd
  sorted := pairwise_enqueue hs.sorted hs.earlier
  distinct := by
    rw [(perm_queuedAddresses_push s a _).nodup_iff, List.nodup_cons]
    exact ⟨hfresh, hs.distinct⟩
  earlier := by
    intro d hd
    show d.order < s.queued + 1
    rcases mem_queue_push.1 hd with rfl | hd
    · exact Nat.lt_succ_self _
    · have := hs.earlier d hd
      omega
  quiet := hs.quiet

/-- What `pushParent` does: nothing without a parent that can be merged now, else it queues that
    parent. -/
theorem pushParent_cases (s : Collapsing) (a : Address) :
    (s.pushParent a = s ∧ ∀ b m, s.tree.parent? a = some (b, m) → m.canMerge = false) ∨
    ∃ b m, s.tree.parent? a = some (b, m) ∧ m.canMerge = true ∧
      s.pushParent a = s.push b m.info.lineCount := by
  unfold pushParent
  cases hparent : s.tree.parent? a with
  | none => exact .inl ⟨rfl, fun b m h => nomatch h⟩
  | some up =>
    obtain ⟨b, m⟩ := up
    cases hmerge : m.canMerge with
    | true => exact .inr ⟨b, m, rfl, hmerge, by simp [hmerge]⟩
    | false =>
      refine .inl ⟨by simp [hmerge], ?_⟩
      intro b' m' h
      rw [Option.some.injEq, Prod.mk.injEq] at h
      rw [← h.2, hmerge]

theorem pushParent_of_canMerge {b : Address} {m : Tree} (hparent : s.tree.parent? a = some (b, m))
    (hmerge : m.canMerge = true) : s.pushParent a = s.push b m.info.lineCount := by
  rw [pushParent, hparent]
  simp [hmerge]

theorem mem_queue_pushParent {d : Candidate} (hd : d ∈ s.queue) : d ∈ (s.pushParent a).queue := by
  rcases pushParent_cases s a with ⟨heq, -⟩ | ⟨b, m, -, -, heq⟩
  · rwa [heq]
  · rw [heq]
    exact mem_queue_push.2 (.inr hd)

/-! ## The first candidate -/

theorem Orderly.first_before (hs : s.Orderly) (hqueue : s.queue = c :: rest) :
    ∀ d ∈ rest, c.before d = true := by
  have hsorted := hs.sorted
  rw [hqueue, List.pairwise_cons] at hsorted
  exact hsorted.1

theorem Orderly.lineCount_first (hs : s.Orderly) (hqueue : s.queue = c :: rest)
    (hold : s.tree.get? c.address = some old) : old.info.lineCount = c.lineCount := by
  obtain ⟨n, hn, -, hlines⟩ := hs.ranked c (by simp [hqueue])
  rw [hold, Option.some.injEq] at hn
  rw [hn, hlines]

/-- An empty queue means that nothing can be merged. -/
theorem mergeable_eq_nil_of_queue (hs : s.Orderly) (hc : s.Complete) (hqueue : s.queue = []) :
    s.tree.mergeable = [] := by
  have hperm := hs.perm_mergeable hc
  rw [queuedAddresses, hqueue, List.map_nil] at hperm
  exact hperm.symm.eq_nil

/-! ## A merge keeps the invariants -/

/-- No candidate stands above or below another one. -/
theorem Orderly.apart (hs : s.Orderly) (hqueue : s.queue = c :: rest) {d : Candidate}
    (hd : d ∈ rest) :
    ¬ c.address <+: d.address ∧ ¬ d.address <+: c.address := by
  obtain ⟨m, hm, hmm, -⟩ := hs.ranked c (by simp [hqueue])
  obtain ⟨n, hn, hnm, -⟩ := hs.ranked d (by simp [hqueue, hd])
  have hne : c.address ≠ d.address := by
    have hdistinct := hs.distinct
    rw [queuedAddresses, hqueue, List.map_cons, List.nodup_cons] at hdistinct
    intro heq
    exact hdistinct.1 (heq ▸ List.mem_map_of_mem hd)
  exact ⟨fun h => hne (eq_of_canMerge_above hm hmm hn hnm h),
    fun h => hne (eq_of_canMerge_above hn hnm hm hmm h).symm⟩

theorem Orderly.replaceFirst (hs : s.Orderly) (hqueue : s.queue = c :: rest)
    (hold : s.tree.get? c.address = some old) (hnew : old.merge = .ok new) :
    (s.replaceFirst c rest old new).Orderly := by
  obtain ⟨hmerge, hleaf, -, -⟩ := merge_eq_ok hnew
  have hsub : rest.Sublist s.queue := hqueue ▸ List.sublist_cons_self c rest
  refine ⟨?_, ?_, hs.sorted.sublist hsub, hs.distinct.sublist (hsub.map _), ?_, ?_⟩
  · -- the children of the merged node are gone
    show s.total - old.children.length = (s.tree.replace c.address new).size
    have h1 : (s.tree.replace c.address new).size + old.size = s.tree.size + new.size :=
      size_replace hold
    have h2 := size_of_canMerge hmerge
    have h3 := size_of_isLeaf hleaf
    rw [hs.total_eq]
    omega
  · -- the other candidates stand apart from the merged node, where nothing has changed
    intro d hd
    obtain ⟨n, hn, hnm, hlines⟩ := hs.ranked d (hsub.subset hd)
    obtain ⟨hcd, hdc⟩ := hs.apart hqueue hd
    exact ⟨n, (get?_replace_apart s.tree new hcd hdc).trans hn, hnm, hlines⟩
  · exact fun d hd => hs.earlier d (hsub.subset hd)
  · intro e he
    rcases List.mem_append.1 he with he | he
    · exact hs.quiet e he
    · rw [List.mem_singleton.1 he, mergeReport]

theorem Orderly.mergeFirst (hs : s.Orderly) (hqueue : s.queue = c :: rest)
    (hold : s.tree.get? c.address = some old) (hnew : old.merge = .ok new) :
    (s.mergeFirst c rest old new).Orderly := by
  have hs' := hs.replaceFirst hqueue hold hnew
  rw [Collapsing.mergeFirst]
  rcases pushParent_cases (s.replaceFirst c rest old new) c.address with
    ⟨heq, -⟩ | ⟨b, m, hparent, hmerge, heq⟩
  · rwa [heq]
  · rw [heq]
    obtain ⟨i, -, hab, -, -, hm⟩ := parent?_eq_some_iff.1 hparent
    refine hs'.push hm hmerge ?_
    -- the parent was no candidate while the merged node had children
    intro hmem
    obtain ⟨d, hd, hdb⟩ := List.mem_map.1 hmem
    have hdc := (hs.apart hqueue hd).2
    rw [hdb, hab] at hdc
    exact hdc (List.prefix_append b [i])

@[simp] theorem tree_mergeFirst (s : Collapsing) (c : Candidate) (rest : List Candidate)
    (old new : Tree) : (s.mergeFirst c rest old new).tree = s.tree.replace c.address new :=
  tree_pushParent _ _

@[simp] theorem merged_mergeFirst (s : Collapsing) (c : Candidate) (rest : List Candidate)
    (old new : Tree) : (s.mergeFirst c rest old new).merged = s.merged ++ [c.address] := by
  rw [Collapsing.mergeFirst]
  rcases pushParent_cases (s.replaceFirst c rest old new) c.address with
    ⟨heq, -⟩ | ⟨b, m, -, -, heq⟩
  · rw [heq]; rfl
  · rw [heq]; rfl

/-- **A turn keeps the loop orderly.** -/
theorem Orderly.turn (hs : s.Orderly) (h : s.turn budget = .go next) : next.Orderly := by
  obtain ⟨c, rest, old, new, -, hqueue, hold, hnew, rfl⟩ := turn_eq_go h
  exact hs.mergeFirst hqueue hold hnew

/-- **A turn keeps the loop sound**, since no merge adds weight. -/
theorem Sound.turn (hs : s.Sound) (h : s.turn budget = .go next) : next.Sound := by
  refine ⟨hs.toOrderly.turn h, ?_⟩
  obtain ⟨c, rest, old, new, -, -, hold, hnew, rfl⟩ := turn_eq_go h
  rw [tree_mergeFirst]
  exact Nat.lt_of_le_of_lt (leafWeight_replace_le hold (leafWeight_merge_le hnew)) hs.light

theorem linked_of_turn (hl : s.tree.Linked) (h : s.turn budget = .go next) : next.tree.Linked := by
  obtain ⟨c, rest, old, new, -, -, hold, hnew, rfl⟩ := turn_eq_go h
  obtain ⟨-, hleaf, hlinked, -⟩ := merge_eq_ok hnew
  rw [tree_mergeFirst]
  exact hl.replace_leaf hold hleaf hlinked

/-- **What a merge makes possible.** A node that can be merged after a merge could be before, or
    it is the parent of the merged node, which the link of that node leads to. -/
theorem mergeable_replaceFirst (hl : s.tree.Linked) (hold : s.tree.get? c.address = some old)
    (hnew : old.merge = .ok new) (ha : a ∈ (s.tree.replace c.address new).mergeable) :
    (a ≠ c.address ∧ a ∈ s.tree.mergeable) ∨
    ∃ m, (s.replaceFirst c rest old new).tree.parent? c.address = some (a, m) ∧
      m.canMerge = true := by
  obtain ⟨-, hleaf, hlinked, -⟩ := merge_eq_ok hnew
  obtain ⟨n, hn, hmerge⟩ := mem_mergeable_iff.1 ha
  rcases canMerge_replace_leaf hold hleaf hn hmerge with ⟨hne, hbefore⟩ | ⟨i, hparent⟩
  · exact .inl ⟨hne, mem_mergeable_iff.2 ⟨n, hbefore, hmerge⟩⟩
  · -- the leaf knows its parent as the node did whose place it takes
    have hself : (s.tree.replace c.address new).get? c.address = some new :=
      get?_replace_self hold new
    have hknown : new.info.linked = true := by
      rw [hlinked]
      exact hl c.address old (by simp [hparent]) hold
    exact .inr ⟨n, parent?_eq_some_iff.2 ⟨i, new, hparent, hself, hknown, hn⟩, hmerge⟩

/-- **A turn keeps the queue complete** where children know their parents. -/
theorem Complete.turn (hc : s.Complete) (hl : s.tree.Linked) (h : s.turn budget = .go next) :
    next.Complete := by
  obtain ⟨c, rest, old, new, -, hqueue, hold, hnew, rfl⟩ := turn_eq_go h
  intro b hb
  rw [tree_mergeFirst] at hb
  rw [Collapsing.mergeFirst]
  rcases mergeable_replaceFirst hl hold hnew hb with ⟨hne, hbefore⟩ | ⟨m, hparent, hmerge⟩
  · -- a candidate before, and not the one that was merged
    obtain ⟨d, hd, rfl⟩ := List.mem_map.1 (hc b hbefore)
    rw [hqueue] at hd
    rcases List.mem_cons.1 hd with rfl | hd
    · exact absurd rfl hne
    · exact List.mem_map_of_mem (mem_queue_pushParent hd)
  · -- the parent, which is queued in this turn
    rw [pushParent_of_canMerge hparent hmerge]
    exact (perm_queuedAddresses_push _ b _).mem_iff.2 (by simp)

/-! ## Runs -/

/-- The loop comes from one state to another by turns that merge. -/
inductive Visits (budget : Int) : Collapsing → Collapsing → Prop where
  | here (s : Collapsing) : Visits budget s s
  | next {s next last : Collapsing} (h : s.turn budget = .go next)
      (hrest : Visits budget next last) : Visits budget s last

/-- What every turn keeps holds to the end. -/
theorem Visits.invariant {P : Collapsing → Prop} (h : Visits budget s last) (hs : P s)
    (hturn : ∀ {s next : Collapsing}, P s → s.turn budget = .go next → P next) : P last := by
  induction h with
  | here => exact hs
  | next h _ ih => exact ih (hturn hs h)

theorem Visits.orderly (h : Visits budget s last) (hs : s.Orderly) : last.Orderly :=
  h.invariant hs Orderly.turn

theorem Visits.sound (h : Visits budget s last) (hs : s.Sound) : last.Sound :=
  h.invariant hs Sound.turn

theorem Visits.complete (h : Visits budget s last) (hl : s.tree.Linked) (hc : s.Complete) :
    last.Complete := by
  have hboth := h.invariant (P := fun s => s.tree.Linked ∧ s.Complete) ⟨hl, hc⟩
    fun hs h => ⟨linked_of_turn hs.1 h, hs.2.turn hs.1 h⟩
  exact hboth.2

/-- Every node that can be merged now has statistics that can be merged. -/
def Merging (s : Collapsing) : Prop :=
  ∀ a n, s.tree.get? a = some n → n.canMerge = true → ∃ new, n.merge = .ok new

theorem Sound.merging (hs : s.Sound) : s.Merging := by
  intro a n hn hmerge
  exact merge_of_canMerge hmerge (Nat.lt_of_le_of_lt (leafWeight_le_of_get? hn) hs.light)

/-- **Progress.** Where no merge can fail, an orderly loop merges unless the budget is met or the
    queue is empty. -/
theorem Orderly.progress (hs : s.Orderly) (hmerging : s.Merging) :
    (s.turn budget = .stop s .finished ∧ (s.total ≤ budget ∨ s.queue = [])) ∨
    budget < s.total ∧ ∃ next, s.turn budget = .go next := by
  by_cases htotal : s.total ≤ budget
  · exact .inl ⟨by rw [Collapsing.turn, if_pos htotal], .inl htotal⟩
  · cases hqueue : s.queue with
    | nil =>
      refine .inl ⟨?_, .inr rfl⟩
      rw [Collapsing.turn, if_neg htotal]
      simp only [hqueue]
    | cons c rest =>
      -- the first candidate is in the tree, and its merge cannot fail
      obtain ⟨old, hold, hmerge, -⟩ := hs.ranked c (by simp [hqueue])
      obtain ⟨new, hnew⟩ := hmerging c.address old hold hmerge
      refine .inr ⟨by omega, s.mergeFirst c rest old new, ?_⟩
      rw [Collapsing.turn, if_neg htotal]
      simp only [hqueue, hold, hnew]

/-- **A run without failures.** Where every turn keeps the loop orderly and its merges possible,
    the run ends without an error, with the budget met or no candidate left. -/
theorem run_of_invariant {P : Collapsing → Prop} (hs : P s)
    (horderly : ∀ {s : Collapsing}, P s → s.Orderly ∧ s.Merging)
    (hturn : ∀ {s next : Collapsing}, P s → s.turn budget = .go next → P next) :
    ∃ last, s.run budget = (last, .finished) ∧ Visits budget s last ∧
      (last.total ≤ budget ∨ last.queue = []) := by
  fun_induction run budget s with
  | case1 s last ending hstopped =>
    -- by progress a turn that ends the run has nothing left to do
    obtain ⟨hord, hmerging⟩ := horderly hs
    rcases hord.progress hmerging with ⟨hstop, hend⟩ | ⟨-, next, hgo⟩
    · rw [hstopped] at hstop
      cases hstop
      exact ⟨s, rfl, .here s, hend⟩
    · rw [hstopped] at hgo
      cases hgo
  | case2 s next hgo ih =>
    obtain ⟨last, hrun, hvisits, hend⟩ := ih (hturn hs hgo)
    exact ⟨last, hrun, .next hgo hvisits, hend⟩

/-- **An empty queue means one node.** With no candidate left there is nothing to merge, and
    a tree with nothing to merge is a single leaf, within every budget. -/
theorem Orderly.total_le_of_stuck (hs : s.Orderly) (hc : s.Complete) (hb : 1 ≤ budget)
    (hend : s.total ≤ budget ∨ s.queue = []) : s.total ≤ budget := by
  rcases hend with htotal | hqueue
  · exact htotal
  · have hnil := mergeable_eq_nil_of_queue hs hc hqueue
    have hone := size_of_isLeaf (mergeable_eq_nil_iff.1 hnil)
    rw [hs.total_eq]
    omega

theorem total_le_of_stuck (hs : s.Sound) (hc : s.Complete) (hb : 1 ≤ budget)
    (hend : s.total ≤ budget ∨ s.queue = []) : s.total ≤ budget :=
  hs.toOrderly.total_le_of_stuck hc hb hend

end SourceCensus.Tree.Collapsing
