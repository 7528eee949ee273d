import SourceCensus.Proofs.Collapse.Replay

/-! # Collapsing a part of a tree

    The loop may be started at any node. It then follows the parents of merged nodes, and once
    the node itself is merged it looks at the parent of that node, which is no longer part of
    what is to be collapsed. That parent may even be queued. It is never merged: a node that has
    become a leaf counts as one node, and one node is within every budget, so the loop ends
    before it comes to the queue again.

    So the loop on a part of a tree makes the turns that it makes where that part is a tree of
    its own, with every address prolonged (`Follows.turn`, `Follows.run`), and collapsing a part
    leaves the rest of the tree alone (`collapseAt_eq`).
-/

namespace SourceCensus.Tree

variable {t u below old new n : Tree} {root a b : Address} {budget : Int}

/-! ## A tree inside another one -/

theorem replace_self (h : t.get? root = some below) : t.replace root below = t := by
  induction root generalizing t with
  | nil =>
    rw [get?_nil, Option.some.injEq] at h
    rw [replace_nil, h]
  | cons i root ih =>
    rw [get?_cons] at h
    obtain ⟨c, hc, h⟩ := Option.bind_eq_some_iff.1 h
    obtain ⟨hi, hci⟩ := List.getElem?_eq_some_iff.1 hc
    rw [replace_cons hc, ih h, ← hci, List.set_getElem_self]
    cases t
    rfl

/-- A replacement inside the node that takes the place of another one is a replacement in the
    whole tree. -/
theorem replace_replace_append (h : t.get? root = some below) (u new : Tree) (a : Address) :
    (t.replace root u).replace (root ++ a) new = t.replace root (u.replace a new) := by
  induction root generalizing t with
  | nil => simp
  | cons i root ih =>
    rw [get?_cons] at h
    obtain ⟨c, hc, h⟩ := Option.bind_eq_some_iff.1 h
    have hi : i < t.children.length := (List.getElem?_eq_some_iff.1 hc).1
    -- the child on the way is the one that was put there
    have hchild : (t.replace (i :: root) u).children[i]? = some (c.replace root u) := by
      rw [replace_cons hc, children, List.getElem?_set_self hi]
    rw [List.cons_append, replace_cons hchild, ih h, replace_cons hc, replace_cons hc, info,
      children, List.set_set]

/-- Below the top of the part a node has the same parent in the part and in the whole. -/
theorem parent?_replace_append (h : t.get? root = some below) (u : Tree) (ha : a ≠ []) :
    (t.replace root u).parent? (root ++ a) =
      (u.parent? a).map fun up => (root ++ up.1, up.2) := by
  obtain ⟨b, i, rfl⟩ := List.eq_nil_or_concat' a |>.resolve_left ha
  have hup : ∀ c : Address, parentAddress? (c ++ [i]) = some c := by
    intro c
    cases c with
    | nil => rfl
    | cons j c =>
      have hlast : (j :: c ++ [i]).dropLast = j :: c := List.dropLast_concat
      exact congrArg some hlast
  rw [parent?, parent?, get?_replace_append h, ← List.append_assoc, hup, hup]
  cases hnode : u.get? (b ++ [i]) with
  | none => rfl
  | some node =>
    obtain ⟨above, habove, -⟩ := exists_get?_of_append hnode
    simp only [Option.bind_eq_bind, Option.bind_some, get?_replace_append h, habove]
    split <;> rfl

mutual

theorem collapsibleFrom_append (root here : Address) (t : Tree) :
    collapsibleFrom (root ++ here) t = (collapsibleFrom here t).map (root ++ ·) := by
  cases t with
  | node i cs =>
    rw [collapsibleFrom, collapsibleFrom, collapsibleAmong_append root here 0 cs]
    split <;> rfl

theorem collapsibleAmong_append (root here : Address) (index : Nat) (ts : List Tree) :
    collapsibleAmong (root ++ here) index ts =
      (collapsibleAmong here index ts).map (root ++ ·) := by
  cases ts with
  | nil => rfl
  | cons t ts =>
    rw [collapsibleAmong, collapsibleAmong, List.map_append, List.append_assoc,
      collapsibleFrom_append root (here ++ [index]) t, collapsibleAmong_append root here _ ts]

end

/-- The nodes to start with are those of the part, at their addresses in the whole. -/
theorem collapsibleFrom_eq_map (root : Address) (t : Tree) :
    collapsibleFrom root t = t.collapsible.map (root ++ ·) := by
  have h := collapsibleFrom_append root [] t
  rwa [List.append_nil] at h

/-! ## Candidates inside another tree -/

/-- A candidate of the part at its address in the whole. -/
def Candidate.inside (root : Address) (c : Candidate) : Candidate :=
  { c with address := root ++ c.address }

/-- The order of the queue does not depend on where candidates stand. -/
theorem enqueue_inside (root : Address) (c : Candidate) (queue : List Candidate) :
    enqueue (c.inside root) (queue.map (Candidate.inside root)) =
      (enqueue c queue).map (Candidate.inside root) := by
  induction queue with
  | nil => rfl
  | cons d rest ih =>
    have hbefore : (c.inside root).before (d.inside root) = c.before d := rfl
    rw [List.map_cons, enqueue, enqueue, hbefore, ih]
    split <;> rfl

namespace Collapsing

variable {s w next last : Collapsing} {c : Candidate} {rest : List Candidate} {ending : Ending}

/-! ## Two loops side by side -/

/-- The loop in the state `w` does in the tree `t`, at the node at `root`, what the loop in the
    state `s` does with that node alone. Their queues may differ once the budget is met, when
    nothing is taken from them any more. -/
structure Follows (budget : Int) (t : Tree) (root : Address) (w s : Collapsing) : Prop where
  tree_eq : w.tree = t.replace root s.tree
  total_eq : w.total = s.total
  merged_eq : w.merged = s.merged.map (root ++ ·)
  log_eq : w.log = s.log
  waiting : budget < s.total →
    w.queue = s.queue.map (Candidate.inside root) ∧ w.queued = s.queued

theorem Follows.push (hf : Follows budget t root w s) (a : Address) (l : Int) :
    Follows budget t root (w.push (root ++ a) l) (s.push a l) := by
  refine ⟨hf.tree_eq, hf.total_eq, hf.merged_eq, hf.log_eq, ?_⟩
  intro hover
  obtain ⟨hqueue, hqueued⟩ := hf.waiting hover
  refine ⟨?_, congrArg (· + 1) hqueued⟩
  show enqueue ⟨l, w.queued, root ++ a⟩ w.queue = _
  rw [hqueue, hqueued]
  exact enqueue_inside root ⟨l, s.queued, a⟩ s.queue

/-- With the budget met a loop may queue what it likes. -/
theorem Follows.pushParent_of_le (hf : Follows budget t root w s) (hmet : s.total ≤ budget)
    (a b : Address) : Follows budget t root (w.pushParent a) (s.pushParent b) := by
  have hkeep : ∀ (s : Collapsing) (a : Address), (s.pushParent a).total = s.total ∧
      (s.pushParent a).merged = s.merged ∧ (s.pushParent a).log = s.log := by
    intro s a
    rcases pushParent_cases s a with ⟨heq, -⟩ | ⟨b, m, -, -, heq⟩
    · rw [heq]
      exact ⟨rfl, rfl, rfl⟩
    · rw [heq]
      exact ⟨rfl, rfl, rfl⟩
  obtain ⟨hwt, hwm, hwl⟩ := hkeep w a
  obtain ⟨hst, hsm, hsl⟩ := hkeep s b
  refine ⟨?_, by rw [hwt, hst, hf.total_eq], by rw [hwm, hsm, hf.merged_eq],
    by rw [hwl, hsl, hf.log_eq], ?_⟩
  · rw [tree_pushParent, tree_pushParent, hf.tree_eq]
  · intro hover
    rw [hst] at hover
    omega

/-- Below the top of the part both loops find the same parent. -/
theorem Follows.pushParent (hf : Follows budget t root w s) (h : t.get? root = some below)
    (ha : a ≠ []) : Follows budget t root (w.pushParent (root ++ a)) (s.pushParent a) := by
  have hparent : w.tree.parent? (root ++ a) =
      (s.tree.parent? a).map fun up => (root ++ up.1, up.2) := by
    rw [hf.tree_eq]
    exact parent?_replace_append h s.tree ha
  rw [Collapsing.pushParent, Collapsing.pushParent, hparent]
  cases s.tree.parent? a with
  | none => exact hf
  | some up =>
    obtain ⟨b, m⟩ := up
    dsimp only [Option.map_some]
    split
    · exact hf.push b m.info.lineCount
    · exact hf

theorem Follows.replaceFirst (hf : Follows budget t root w s) (h : t.get? root = some below)
    (hover : budget < s.total) (c : Candidate) (rest : List Candidate) (old new : Tree) :
    Follows budget t root
      (w.replaceFirst (c.inside root) (rest.map (Candidate.inside root)) old new)
      (s.replaceFirst c rest old new) := by
  refine ⟨?_, ?_, ?_, ?_, fun _ => ⟨rfl, (hf.waiting hover).2⟩⟩
  · show w.tree.replace (root ++ c.address) new = t.replace root (s.tree.replace c.address new)
    rw [hf.tree_eq, replace_replace_append h]
  · show w.total - old.children.length = s.total - old.children.length
    rw [hf.total_eq]
  · show w.merged ++ [root ++ c.address] = (s.merged ++ [c.address]).map (root ++ ·)
    rw [hf.merged_eq, List.map_append, List.map_singleton]
  · show w.log ++ [mergeReport old new] = s.log ++ [mergeReport old new]
    rw [hf.log_eq]

/-- A node that has become a leaf is within every budget. -/
theorem Orderly.total_le_of_replaceFirst_top (hs : s.Orderly) (hb : 1 ≤ budget)
    (hqueue : s.queue = c :: rest) (hold : s.tree.get? c.address = some old)
    (hnew : old.merge = .ok new) (htop : c.address = []) :
    (s.replaceFirst c rest old new).total ≤ budget := by
  obtain ⟨-, hleaf, -, -⟩ := merge_eq_ok hnew
  rw [(hs.replaceFirst hqueue hold hnew).total_eq]
  show ((s.tree.replace c.address new).size : Int) ≤ budget
  rw [htop, replace_nil, size_of_isLeaf hleaf]
  exact hb

/-- A merge in the part is the same merge in the whole. The two loops may queue different parents
    only when the top of the part is merged, which ends them both. -/
theorem Follows.mergeFirst (hf : Follows budget t root w s) (hs : s.Orderly) (hb : 1 ≤ budget)
    (h : t.get? root = some below) (hover : budget < s.total) (hqueue : s.queue = c :: rest)
    (hold : s.tree.get? c.address = some old) (hnew : old.merge = .ok new) :
    Follows budget t root
      (w.mergeFirst (c.inside root) (rest.map (Candidate.inside root)) old new)
      (s.mergeFirst c rest old new) := by
  have hfirst := hf.replaceFirst h hover c rest old new
  by_cases htop : c.address = []
  · exact hfirst.pushParent_of_le (hs.total_le_of_replaceFirst_top hb hqueue hold hnew htop) _ _
  · exact hfirst.pushParent h htop

/-- **One turn.** A turn of the loop on the part is a turn of the loop on the whole. -/
theorem Follows.turn (hf : Follows budget t root w s) (hs : s.Orderly) (hb : 1 ≤ budget)
    (h : t.get? root = some below) :
    (∃ last last' ending, s.turn budget = .stop last ending ∧
      w.turn budget = .stop last' ending ∧ Follows budget t root last' last) ∨
    ∃ next next', s.turn budget = .go next ∧ w.turn budget = .go next' ∧
      Follows budget t root next' next := by
  by_cases htotal : s.total ≤ budget
  · -- the budget is met for both
    refine .inl ⟨s, w, .finished, ?_, ?_, hf⟩
    · rw [Collapsing.turn, if_pos htotal]
    · rw [Collapsing.turn, if_pos (by rw [hf.total_eq]; exact htotal)]
  · have hover : budget < s.total := by omega
    obtain ⟨hwqueue, -⟩ := hf.waiting hover
    have hwtotal : ¬ w.total ≤ budget := by rw [hf.total_eq]; exact htotal
    cases hqueue : s.queue with
    | nil =>
      -- no candidate is left for either
      rw [hqueue, List.map_nil] at hwqueue
      refine .inl ⟨s, w, .finished, ?_, ?_, hf⟩
      · rw [Collapsing.turn, if_neg htotal]
        simp only [hqueue]
      · rw [Collapsing.turn, if_neg hwtotal]
        simp only [hwqueue]
    | cons c rest =>
      rw [hqueue, List.map_cons] at hwqueue
      obtain ⟨old, hold, -, -⟩ := hs.ranked c (by simp [hqueue])
      have hwold : w.tree.get? (c.inside root).address = some old := by
        rw [hf.tree_eq]
        exact (get?_replace_append h s.tree c.address).trans hold
      cases hnew : old.merge with
      | error e =>
        -- the same node cannot be merged
        refine .inl ⟨{ s with queue := rest },
          { w with queue := rest.map (Candidate.inside root) }, .failed e, ?_, ?_, ?_⟩
        · rw [Collapsing.turn, if_neg htotal]
          simp only [hqueue, hold, hnew]
        · rw [Collapsing.turn, if_neg hwtotal]
          simp only [hwqueue, hwold, hnew]
        · exact ⟨hf.tree_eq, hf.total_eq, hf.merged_eq, hf.log_eq,
            fun _ => ⟨rfl, (hf.waiting hover).2⟩⟩
      | ok new =>
        refine .inr ⟨s.mergeFirst c rest old new,
          w.mergeFirst (c.inside root) (rest.map (Candidate.inside root)) old new, ?_, ?_, ?_⟩
        · rw [Collapsing.turn, if_neg htotal]
          simp only [hqueue, hold, hnew]
        · rw [Collapsing.turn, if_neg hwtotal]
          simp only [hwqueue, hwold, hnew]
        · exact hf.mergeFirst hs hb h hover hqueue hold hnew

theorem run_of_stop (h : s.turn budget = .stop last ending) : s.run budget = (last, ending) := by
  unfold run
  split
  · rename_i last' ending' hstop
    rw [h] at hstop
    cases hstop
    rfl
  · rename_i next hgo
    rw [h] at hgo
    cases hgo

theorem run_of_go (h : s.turn budget = .go next) : s.run budget = next.run budget := by
  conv_lhs => unfold run
  split
  · rename_i last ending hstop
    rw [h] at hstop
    cases hstop
  · rename_i next' hgo
    rw [h] at hgo
    cases hgo
    rfl

/-- **Whole runs.** By induction along the run of the part: both end in the same way. -/
theorem Follows.run (hf : Follows budget t root w s) (hs : s.Orderly) (hb : 1 ≤ budget)
    (h : t.get? root = some below) :
    (w.run budget).2 = (s.run budget).2 ∧
      Follows budget t root (w.run budget).1 (s.run budget).1 := by
  fun_induction Collapsing.run budget s generalizing w with
  | case1 s last ending hstopped =>
    -- the part stops, and the whole cannot take a turn
    rcases hf.turn hs hb h with
      ⟨last₁, last', ending₁, hstop, hwstop, hlast⟩ | ⟨next, -, hgo, -, -⟩
    · rw [hstopped] at hstop
      cases hstop
      rw [run_of_stop hwstop]
      exact ⟨rfl, hlast⟩
    · rw [hstopped] at hgo
      cases hgo
  | case2 s next hgo ih =>
    -- the part takes a turn, and the whole takes the same one
    rcases hf.turn hs hb h with
      ⟨last₁, last', ending₁, hstop, -, -⟩ | ⟨next₁, next', hgo', hwgo, hnext⟩
    · rw [hgo] at hstop
      cases hstop
    · rw [hgo] at hgo'
      cases hgo'
      rw [run_of_go hwgo]
      exact ih hnext (hs.turn hgo)

/-! ## The start -/

theorem Follows.pushAll (hf : Follows budget t root w s) (h : t.get? root = some below)
    (as : List Address) :
    Follows budget t root (Collapsing.pushAll t (as.map (root ++ ·)) w)
      (Collapsing.pushAll below as s) := by
  induction as generalizing w s with
  | nil => exact hf
  | cons a as ih =>
    -- the lines are read in the whole tree, where the part is found at `root`
    have hlines : t.get? (root ++ a) = below.get? a := get?_append_of_some h a
    rw [List.map_cons, Collapsing.pushAll, Collapsing.pushAll, List.foldl_cons, List.foldl_cons,
      hlines]
    exact ih (hf.push a _)

theorem follows_start (budget : Int) (h : t.get? root = some below) :
    Follows budget t root (startCollapsing t root below) (startCollapsing below [] below) := by
  have hunqueued : Follows budget t root
      { tree := t, total := below.countNodes, queue := [], queued := 0, merged := [], log := [] }
      (unqueued below) :=
    ⟨(replace_self h).symm, rfl, rfl, rfl, fun _ => ⟨rfl, rfl⟩⟩
  have hall := hunqueued.pushAll h below.collapsible
  rw [← collapsibleFrom_eq_map] at hall
  exact hall

end Collapsing

open Collapsing

/-- What came of collapsing a part, seen from the whole tree. -/
def Collapsed.within (t : Tree) (root : Address) (r : Collapsed) : Collapsed :=
  { r with tree := t.replace root r.tree, merged := r.merged.map (root ++ ·) }

/-- **Collapsing a part of a tree** is collapsing that part as a tree of its own and putting what
    is left of it back in its place. -/
theorem collapseAt_eq (h : t.get? root = some below) (budget : Int) :
    t.collapseAt root budget = (below.collapse budget).map (Collapsed.within t root) := by
  rw [collapse, collapseAt, collapseAt, h, get?_nil]
  by_cases hb : budget < 1
  · rw [if_pos hb, if_pos hb]
    rfl
  · rw [if_neg hb, if_neg hb]
    by_cases hinitial : (below.countNodes : Int) ≤ budget
    · -- neither enters its loop
      simp only [if_pos hinitial, Except.map, Collapsed.within, replace_self h, List.map_nil]
    · simp only [if_neg hinitial]
      obtain ⟨hending, hf⟩ :=
        (follows_start budget h).run (start_orderly below).1 (by omega) h
      cases hrun : (startCollapsing below [] below).run budget with
      | mk s ending =>
        cases hwrun : (startCollapsing t root below).run budget with
        | mk w ending' =>
          rw [hrun, hwrun] at hending hf
          dsimp only at hending hf
          subst hending
          -- the entries at the end tell the number of nodes and of merges, which are the same
          have hclosing : closingEntries below.countNodes budget w =
              closingEntries below.countNodes budget s := by
            rw [closingEntries, closingEntries, hf.total_eq, hf.merged_eq, List.length_map]
          cases ending' with
          | finished =>
            simp only [Except.map, Collapsed.within, hf.tree_eq, hf.merged_eq, hf.log_eq, hclosing]
          | failed e =>
            simp only [Except.map, Collapsed.within, hf.tree_eq, hf.merged_eq, hf.log_eq]

end SourceCensus.Tree
