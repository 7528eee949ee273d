import SourceCensus.Proofs.Collapse.Subtree

/-! # Collapsing only prunes

    An address stands for a node through a whole run: merges take nodes away, and no other node
    ever comes to stand in their place. So what a list of merges does to a tree can be said
    address by address (`Pruned`):

    - a node that is left is either as it was, with the children it had, or it was merged and is
      a leaf now;
    - the nodes that are gone are those below a merged node.

    Every list of merges prunes (`pruned_of_mergeAll?`, one merge at a time), and the nodes that
    are left and those that are gone add up (`Pruned.size_add_removed`). Together with what
    collapsing a part of a tree leaves alone this gives `collapse_only_prunes`.
-/

namespace SourceCensus.Tree

open Collapsing

variable {t u v n m old new : Tree} {root a b : Address} {as bs : List Address} {budget : Int}

/-! ## Counting addresses -/

mutual

theorem length_nodesFrom (here : Address) (t : Tree) : (nodesFrom here t).length = t.size := by
  cases t with
  | node i cs =>
    have h := length_nodesAmong here 0 cs
    rw [nodesFrom, List.length_cons, h, size]
    omega

theorem length_nodesAmong (here : Address) (index : Nat) (ts : List Tree) :
    (nodesAmong here index ts).length = sizes ts := by
  cases ts with
  | nil => rfl
  | cons t ts =>
    rw [nodesAmong, List.length_append, length_nodesFrom (here ++ [index]) t,
      length_nodesAmong here (index + 1) ts, sizes]

end

/-- The addresses of all nodes, in pre-order. -/
def addresses (t : Tree) : List Address := t.nodes.map (·.1)

theorem length_addresses (t : Tree) : t.addresses.length = t.size := by
  rw [addresses, List.length_map, nodes, length_nodesFrom]

theorem mem_addresses_iff : a ∈ t.addresses ↔ ∃ n, t.get? a = some n := by
  rw [addresses, List.mem_map]
  constructor
  · rintro ⟨⟨b, n⟩, hp, rfl⟩
    exact ⟨n, mem_nodes_iff.1 hp⟩
  · rintro ⟨n, hn⟩
    exact ⟨(a, n), mem_nodes_iff.2 hn, rfl⟩

/-! ## What pruning means -/

/-- Two nodes at one address, in a tree and in what is left of it, are the same: they carry the
    same and have the same children, which are told apart by their indices. -/
def SameNode (n m : Tree) : Prop := n.info = m.info ∧ n.children.length = m.children.length

theorem SameNode.refl (n : Tree) : SameNode n n := ⟨rfl, rfl⟩

theorem SameNode.trans {k : Tree} (h₁ : SameNode n m) (h₂ : SameNode m k) : SameNode n k :=
  ⟨h₁.1.trans h₂.1, h₁.2.trans h₂.2⟩

/-- The address of a node strictly below another one. -/
def Below (a b : Address) : Prop := b <+: a ∧ b ≠ a

/-- A node that is left of a node `m` after merges. -/
structure LeftOf (wasMerged : Prop) (n m : Tree) : Prop where
  path_eq : n.info.path = m.info.path
  isFile_eq : n.info.isFile = m.info.isFile
  /-- A merged node is a leaf now, and every other node is as it was. -/
  mergedOrSame : wasMerged ∧ n.isLeaf = true ∧ n.info.isCollapsed = true ∨
    ¬ wasMerged ∧ SameNode n m

/-- The tree `u` is what merges at the addresses `as` leave of the tree `t`. -/
structure Pruned (t u : Tree) (as : List Address) : Prop where
  /-- No node is new, and those that are left are as they were or merged. -/
  kept : ∀ a n, u.get? a = some n → ∃ m, t.get? a = some m ∧ LeftOf (a ∈ as) n m
  /-- What is gone stood below a merged node, and nothing is left there. -/
  gone : ∀ a m, t.get? a = some m → (u.get? a = none ↔ ∃ b ∈ as, Below a b)

theorem pruned_refl (t : Tree) : Pruned t t [] := by
  refine ⟨fun a n hn => ⟨n, hn, rfl, rfl, .inr ⟨by simp, .refl n⟩⟩, ?_⟩
  intro a m hm
  simp [hm]

/-! ## One merge -/

/-- When a node becomes a leaf, the nodes below it are gone and no others. -/
theorem get?_replace_leaf_eq_none_iff (h : t.get? a = some old) (hleaf : new.isLeaf = true)
    (hm : t.get? b = some m) : (t.replace a new).get? b = none ↔ Below b a := by
  constructor
  · intro hnone
    by_cases hab : a <+: b
    · refine ⟨hab, ?_⟩
      rintro rfl
      rw [get?_replace_self h new] at hnone
      cases hnone
    · -- a node above the address or apart from it is still there
      by_cases hba : b <+: a
      · obtain ⟨r, rfl⟩ := hba
        rw [get?_replace_above hm] at hnone
        cases hnone
      · rw [get?_replace_apart t new hab hba, hm] at hnone
        cases hnone
  · rintro ⟨⟨r, rfl⟩, hne⟩
    rw [get?_replace_append h]
    cases r with
    | nil => exact absurd (List.append_nil a).symm hne
    | cons i r => exact get?_cons_of_isLeaf hleaf i r

/-- **One more merge prunes a pruned tree.** -/
theorem Pruned.mergeAt? (hp : Pruned t u as) (h : u.mergeAt? a = some v) :
    Pruned t v (as ++ [a]) := by
  obtain ⟨old, new, hold, hnew, rfl⟩ := mergeAt?_eq_some_iff.1 h
  obtain ⟨-, merged, -, hinfo⟩ := merge_eq_ok_iff.1 hnew
  obtain ⟨hmerge, hleaf, -, -⟩ := merge_eq_ok hnew
  refine ⟨?_, ?_⟩
  · intro b n hn
    rcases get?_replace_leaf hold hleaf hn with
      ⟨rfl, rfl⟩ | ⟨hab, hsame⟩ | ⟨k, i, r, rfl, hk, hbelow, rfl⟩
    · -- the merged node keeps its path and where it came from
      obtain ⟨m, hm, hpath, hfile, -⟩ := hp.kept b old hold
      refine ⟨m, hm, ?_, ?_, .inl ⟨by simp, hleaf, ?_⟩⟩
      · rw [hinfo, ← hpath]
        rfl
      · rw [hinfo, ← hfile]
        rfl
      · rw [hinfo]
        rfl
    · -- a node apart from it is as it was, and is not the one that was merged
      obtain ⟨m, hm, hpath, hfile, hcases⟩ := hp.kept b n hsame
      have hne : b ≠ a := fun heq => hab (heq ▸ List.prefix_rfl)
      have hiff : b ∈ as ++ [a] ↔ b ∈ as := by simp [hne]
      exact ⟨m, hm, hpath, hfile, by rwa [hiff]⟩
    · -- a node above it has children, so it was not merged before
      obtain ⟨m, hm, hpath, hfile, hcases⟩ := hp.kept b k hk
      have hfolder := isLeaf_of_get?_cons hbelow
      have hsame : SameNode (k.replace (i :: r) new) k :=
        ⟨info_replace_cons k i r new, length_children_replace_cons k i r new⟩
      refine ⟨m, hm, by rw [hsame.1, hpath], by rw [hsame.1, hfile], .inr ?_⟩
      rcases hcases with ⟨-, hend, -⟩ | ⟨hnot, hkm⟩
      · rw [hfolder] at hend
        cases hend
      · exact ⟨by simpa using hnot, hsame.trans hkm⟩
  · intro b m hm
    have hgone := hp.gone b m hm
    cases hb : u.get? b with
    | none =>
      -- gone before, and merges bring nothing back
      obtain ⟨c, hc, hbc⟩ := hgone.1 hb
      refine ⟨fun _ => ⟨c, List.mem_append_left _ hc, hbc⟩, fun _ => ?_⟩
      cases hv : (u.replace a new).get? b with
      | none => rfl
      | some n =>
        rcases get?_replace_leaf hold hleaf hv with
          ⟨rfl, -⟩ | ⟨-, hsame⟩ | ⟨k, i, r, -, hk, -, -⟩
        · rw [hold] at hb
          cases hb
        · rw [hsame] at hb
          cases hb
        · rw [hk] at hb
          cases hb
    | some k =>
      -- still there: it goes if it is below the merged node, and only then
      have hnot : ¬ ∃ c ∈ as, Below b c := by
        rw [← hgone, hb]
        exact fun hcontra => nomatch hcontra
      rw [get?_replace_leaf_eq_none_iff hold hleaf hb]
      constructor
      · intro hba
        exact ⟨a, by simp, hba⟩
      · rintro ⟨c, hc, hbc⟩
        rcases List.mem_append.1 hc with hc | hc
        · exact absurd ⟨c, hc, hbc⟩ hnot
        · rwa [List.mem_singleton.1 hc] at hbc

theorem Pruned.mergeAll? (hp : Pruned t u as) (h : u.mergeAll? bs = some v) :
    Pruned t v (as ++ bs) := by
  induction bs generalizing u as with
  | nil =>
    rw [mergeAll?_nil, Option.some.injEq] at h
    rwa [← h, List.append_nil]
  | cons b bs ih =>
    rw [mergeAll?_cons] at h
    obtain ⟨w, hw, h⟩ := Option.bind_eq_some_iff.1 h
    rw [List.append_cons]
    exact ih (hp.mergeAt? hw) h

/-- **Merges prune.** -/
theorem pruned_of_mergeAll? (h : t.mergeAll? as = some u) : Pruned t u as :=
  (pruned_refl t).mergeAll? h

/-! ## How many nodes are gone -/

/-- The addresses of the nodes of a tree that another tree has no node at. -/
def removed (t u : Tree) : List Address := t.addresses.filter fun a => (u.get? a).isNone

/-- **The nodes that are gone are missing in the count**, and no others: what is left and what is
    gone are all nodes there were. -/
theorem Pruned.size_add_removed (hp : Pruned t u as) : u.size + (removed t u).length = t.size := by
  have hnodup : ∀ t : Tree, t.addresses.Nodup := nodup_addresses
  have hleft : (t.addresses.filter fun a => (u.get? a).isSome).Perm u.addresses := by
    refine (List.perm_ext_iff_of_nodup ((hnodup t).filter _) (hnodup u)).2 ?_
    intro a
    rw [List.mem_filter, mem_addresses_iff, mem_addresses_iff, Option.isSome_iff_exists]
    constructor
    · exact fun h => h.2
    · rintro ⟨n, hn⟩
      obtain ⟨m, hm, -⟩ := hp.kept a n hn
      exact ⟨⟨m, hm⟩, n, hn⟩
  have hsplit := List.length_eq_length_filter_add (l := t.addresses) fun a => (u.get? a).isSome
  have hnone : (fun a => !(u.get? a).isSome) = fun a => (u.get? a).isNone := by
    funext a
    cases u.get? a <;> rfl
  rw [hnone, hleft.length_eq, length_addresses, length_addresses] at hsplit
  rw [removed]
  exact hsplit.symm

/-! ## Merges inside a part -/

theorem mergeAll?_replace (h : t.get? root = some n) (hmerges : u.mergeAll? as = some v) :
    (t.replace root u).mergeAll? (as.map (root ++ ·)) = some (t.replace root v) := by
  induction as generalizing u with
  | nil =>
    rw [mergeAll?_nil, Option.some.injEq] at hmerges
    rw [List.map_nil, mergeAll?_nil, hmerges]
  | cons a as ih =>
    rw [mergeAll?_cons] at hmerges
    obtain ⟨w, hmerge, hmerges⟩ := Option.bind_eq_some_iff.1 hmerges
    obtain ⟨old, new, hold, hnew, rfl⟩ := mergeAt?_eq_some_iff.1 hmerge
    -- the first merge is made where the part stands in the whole tree
    have hfirst : (t.replace root u).mergeAt? (root ++ a) =
        some (t.replace root (u.replace a new)) :=
      mergeAt?_eq_some_iff.2 ⟨old, new, (get?_replace_append h u a).trans hold, hnew,
        (replace_replace_append h u new a).symm⟩
    rw [List.map_cons, mergeAll?_cons, hfirst, Option.bind_some, ih hmerges]

theorem mergeAll?_within (h : t.get? root = some n) (hmerges : n.mergeAll? as = some u) :
    t.mergeAll? (as.map (root ++ ·)) = some (t.replace root u) := by
  have hall := mergeAll?_replace h hmerges
  rwa [replace_self h] at hall

/-! ## Collapsing -/

/-- **Collapsing only prunes**, and only inside the part that is collapsed. Whichever nodes know
    their parents, no merge fails. A node outside the part, also one above it, is as it was. A node
    of the part that is left has kept its path and whether it is a file, and is as it was, with the
    children it had, or was merged and is a leaf with the mark of a merge. The nodes that are gone
    are those below a merged node, and the count of the part is smaller by just their number. -/
theorem collapse_only_prunes (hlight : t.lineMagnitude < Number.twoTo 1000)
    (hn : t.get? root = some n) (hb : 1 ≤ budget) :
    ∃ r left, t.collapseAt root budget = .ok r ∧ r.failure = none ∧
      t.mergeAll? r.merged = some r.tree ∧ (∀ a ∈ r.merged, root <+: a) ∧
      (∀ a m, ¬ root <+: a → t.get? a = some m →
        ∃ m', r.tree.get? a = some m' ∧ SameNode m' m) ∧
      (∀ a, ¬ root <+: a → t.get? a = none → r.tree.get? a = none) ∧
      Pruned t r.tree r.merged ∧
      r.tree.get? root = some left ∧ left.countNodes + (removed n left).length = n.countNodes := by
  -- the lines of the part are among those of the tree
  have hweight : n.leafWeight < Number.twoTo 1000 :=
    Nat.lt_of_le_of_lt
      (Nat.le_trans (leafWeight_le_of_get? hn) (leafWeight_le_lineMagnitude t)) hlight
  obtain ⟨r, last, hr, hvisits, -, hrtree, hrmerged, hfailure, -⟩ := collapse_spec hweight hb
  -- the merges of the run, replayed on the part and then inside the tree
  have hreplay := ((replayed_start budget n).visits hvisits (start_orderly n).1).replay
  rw [← hrtree, ← hrmerged] at hreplay
  have hwithin := mergeAll?_within hn hreplay
  have hpruned := pruned_of_mergeAll? hwithin
  have hinside : ∀ a ∈ r.merged.map (root ++ ·), root <+: a := by
    intro a ha
    obtain ⟨b, -, rfl⟩ := List.mem_map.1 ha
    exact List.prefix_append root b
  refine ⟨r.within t root, r.tree, ?_, hfailure, hwithin, hinside, ?_, ?_, hpruned,
    get?_replace_self hn r.tree, ?_⟩
  · rw [collapseAt_eq hn, hr]
    rfl
  · -- no merged node stands above a node outside the part, and that node was not merged
    intro a m hout hm
    have hleft : (t.replace root r.tree).get? a ≠ none := by
      intro hnone
      obtain ⟨c, hc, hac, -⟩ := (hpruned.gone a m hm).1 hnone
      exact hout ((hinside c hc).trans hac)
    obtain ⟨m', hm'⟩ := Option.ne_none_iff_exists'.1 hleft
    obtain ⟨k, hk, -, -, hcases⟩ := hpruned.kept a m' hm'
    rw [hm, Option.some.injEq] at hk
    subst hk
    rcases hcases with ⟨hmem, -⟩ | ⟨-, hsame⟩
    · exact absurd (hinside a hmem) hout
    · exact ⟨m', hm', hsame⟩
  · -- where there was no node none has come, since merges bring nothing back
    intro a _ hnone
    cases hm : (r.within t root).tree.get? a with
    | none => rfl
    | some m' =>
      obtain ⟨k, hk, -⟩ := hpruned.kept a m' hm
      rw [hnone] at hk
      cases hk
  · -- the count is about the part alone
    rw [countNodes_eq_size, countNodes_eq_size]
    exact (pruned_of_mergeAll? hreplay).size_add_removed

/-- A folder in which one of two folders does not know its parent, and a file beside it. -/
def sampleHalfLinked : Tree :=
  sampleFolder "h" 9 [
    .node { path := "h/a", lineCount := 6 } [
      .node { path := "h/a/b", lineCount := 2 } [sampleFile "h/a/b/x" 1, sampleFile "h/a/b/y" 1],
      .node { path := "h/a/c", lineCount := 4, linked := true } [sampleFile "h/a/c/z" 4]],
    sampleFile "h/w" 3]

theorem collapse_only_prunes_sampleHalfLinked :
    ∃ n, sampleHalfLinked.lineMagnitude < Number.twoTo 1000 ∧
      sampleHalfLinked.get? [0] = some n ∧ n.countNodes = 6 ∧
      ∃ r left, sampleHalfLinked.collapseAt [0] 1 = .ok r ∧ r.failure = none ∧
        sampleHalfLinked.mergeAll? r.merged = some r.tree ∧ (∀ a ∈ r.merged, [0] <+: a) ∧
        (∀ a m, ¬ [0] <+: a → sampleHalfLinked.get? a = some m →
          ∃ m', r.tree.get? a = some m' ∧ SameNode m' m) ∧
        (∀ a, ¬ [0] <+: a → sampleHalfLinked.get? a = none → r.tree.get? a = none) ∧
        Pruned sampleHalfLinked r.tree r.merged ∧
        r.tree.get? [0] = some left ∧
        left.countNodes + (removed n left).length = n.countNodes := by
  have hlight : sampleHalfLinked.lineMagnitude < Number.twoTo 1000 := by decide +kernel
  obtain ⟨n, hn, hsize⟩ : ∃ n, sampleHalfLinked.get? [0] = some n ∧ n.size = 6 :=
    ⟨_, rfl, by decide +kernel⟩
  exact ⟨n, hlight, hn, by rw [countNodes_eq_size, hsize],
    collapse_only_prunes hlight hn (by decide)⟩

end SourceCensus.Tree
