import Mathlib.Data.List.Lex
import SourceCensus.Proofs.Tree.Traversal

/-! # The order of a traversal

    A node is told from all others by its address, so a traversal can be judged by addresses. In
    pre-order a node comes before those below it, and what is below a child before what is below a
    later child. That is the lexicographic order of addresses: the nodes with their addresses are
    listed in it (`pairwise_addresses`), and without their addresses they are those of the recursive
    pre-order (`map_snd_nodes`).

    The walk with a stack, the count of the nodes and the search for nodes that can be merged all
    speak of this one list (`traversals_agree`).
-/

namespace SourceCensus.Tree

/-- The address `a` comes before the address `b` in pre-order. -/
def Precedes (a b : Address) : Prop := List.Lex (· < ·) a b

/-- A node comes before those below it. -/
theorem precedes_below (here : Address) (i : Nat) (r : Address) :
    Precedes here (here ++ i :: r) := by
  have h : Precedes (here ++ []) (here ++ i :: r) :=
    List.Lex.append_left (· < ·) List.Lex.nil here
  rwa [List.append_nil] at h

/-- What is at or below a child comes before what is at or below a later child. -/
theorem precedes_later (here : Address) {i j : Nat} (h : i < j) (r s : Address) :
    Precedes (here ++ i :: r) (here ++ j :: s) :=
  List.Lex.append_left (· < ·) (List.Lex.rel h) here

mutual

theorem pairwise_addressesFrom (here : Address) (t : Tree) :
    ((nodesFrom here t).map (·.1)).Pairwise Precedes := by
  cases t with
  | node i cs =>
    rw [nodesFrom, List.map_cons, List.pairwise_cons]
    refine ⟨?_, pairwise_addressesAmong here 0 cs⟩
    intro b hb
    obtain ⟨p, hp, rfl⟩ := List.mem_map.1 hb
    obtain ⟨k, a, c, hk, -, -⟩ := (mem_nodesAmong_iff here 0 cs p).1 hp
    rw [hk]
    exact precedes_below here (0 + k) a

theorem pairwise_addressesAmong (here : Address) (index : Nat) (ts : List Tree) :
    ((nodesAmong here index ts).map (·.1)).Pairwise Precedes := by
  cases ts with
  | nil => exact .nil
  | cons t ts =>
    rw [nodesAmong, List.map_append, List.pairwise_append]
    refine ⟨pairwise_addressesFrom (here ++ [index]) t,
      pairwise_addressesAmong here (index + 1) ts, ?_⟩
    -- the first child has a smaller index than all others
    intro a ha b hb
    obtain ⟨p, hp, rfl⟩ := List.mem_map.1 ha
    obtain ⟨q, hq, rfl⟩ := List.mem_map.1 hb
    obtain ⟨r, hr, -⟩ := (mem_nodesFrom_iff _ t p).1 hp
    obtain ⟨k, s, c, hs, -, -⟩ := (mem_nodesAmong_iff here (index + 1) ts q).1 hq
    rw [hr, hs, List.append_assoc]
    exact precedes_later here (by omega) r s

end

/-- **Addresses come in lexicographic order.** -/
theorem pairwise_addresses (t : Tree) : (t.nodes.map (·.1)).Pairwise Precedes :=
  pairwise_addressesFrom [] t

mutual

theorem map_snd_nodesFrom (here : Address) (t : Tree) :
    (nodesFrom here t).map (·.2) = t.preorder := by
  cases t with
  | node i cs => rw [nodesFrom, preorder, List.map_cons, map_snd_nodesAmong here 0 cs]

theorem map_snd_nodesAmong (here : Address) (index : Nat) (ts : List Tree) :
    (nodesAmong here index ts).map (·.2) = preorders ts := by
  cases ts with
  | nil => rfl
  | cons t ts =>
    rw [nodesAmong, preorders, List.map_append, map_snd_nodesFrom (here ++ [index]) t,
      map_snd_nodesAmong here (index + 1) ts]

end

/-- Without their addresses the nodes are those of the recursive pre-order. -/
theorem map_snd_nodes (t : Tree) : t.nodes.map (·.2) = t.preorder := map_snd_nodesFrom [] t

/-- A node whose children are a list of leaves, and not the empty list. -/
def HasOnlyLeaves (n : Tree) : Prop := n.children ≠ [] ∧ ∀ c ∈ n.children, c.children = []

theorem canMerge_iff_hasOnlyLeaves {n : Tree} : n.canMerge = true ↔ n.HasOnlyLeaves := by
  rw [canMerge_iff]
  simp only [HasOnlyLeaves, isLeaf_iff]

instance : DecidablePred HasOnlyLeaves := fun _ => decidable_of_iff _ canMerge_iff_hasOnlyLeaves

/-- No node that is found to be collapsible is above another one. -/
theorem pairwise_collapsible (t : Tree) :
    t.collapsible.Pairwise fun a b => ¬ a <+: b ∧ ¬ b <+: a := by
  have heq : ∀ a ∈ t.mergeable, ∀ b ∈ t.mergeable, a <+: b → a = b := by
    intro a ha b hb hab
    obtain ⟨m, hm, hma⟩ := mem_mergeable_iff.1 ha
    obtain ⟨n, hn, hnb⟩ := mem_mergeable_iff.1 hb
    exact eq_of_canMerge_above hm hma hn hnb hab
  rw [collapsible_eq_mergeable]
  refine (nodup_mergeable t).imp_of_mem ?_
  intro a b ha hb hne
  exact ⟨fun hab => hne (heq a ha b hb hab), fun hba => hne (heq b hb a ha hba).symm⟩

/-- **Traversals agree.** The nodes of a tree, each at its own address, are listed once each in
    pre-order. The walk with a stack yields them in this order, as the recursive pre-order does; the
    count of the nodes is the number of nodes that it yields; and the nodes found to be collapsible
    are those of the list whose children are leaves, in the order of the list. None of these is
    above another, and only a single leaf has none. -/
theorem traversals_agree (t : Tree) :
    (∀ a n, (a, n) ∈ t.nodes ↔ t.get? a = some n) ∧
    (t.nodes.map (·.1)).Nodup ∧
    (t.nodes.map (·.1)).Pairwise Precedes ∧
    t.walk = t.nodes.map (·.2) ∧
    t.walk = t.preorder ∧
    t.countNodes = t.walk.length ∧
    t.collapsible = (t.nodes.filter fun p => decide p.2.HasOnlyLeaves).map (·.1) ∧
    t.collapsible.Pairwise (fun a b => ¬ a <+: b ∧ ¬ b <+: a) ∧
    (t.collapsible = [] ↔ t.children = []) := by
  refine ⟨fun _ _ => mem_nodes_iff, nodup_addresses t, pairwise_addresses t, ?_,
    walk_eq_preorder t, ?_, ?_, pairwise_collapsible t, ?_⟩
  · rw [map_snd_nodes, walk_eq_preorder]
  · rw [countNodes_eq_size, walk_eq_preorder, length_preorder]
  · rw [collapsible_eq_mergeable, mergeable, mergeableOf]
    simp only [← canMerge_iff_hasOnlyLeaves, Bool.decide_eq_true]
  · rw [collapsible_eq_mergeable, mergeable_eq_nil_iff, isLeaf_iff]

end SourceCensus.Tree
