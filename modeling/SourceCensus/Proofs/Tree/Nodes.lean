import SourceCensus.Proofs.Tree.Address

/-! # The nodes of a tree with their addresses

    `nodes` lists every node in pre-order together with its address. It is the common form of
    what a traversal can say about a tree: an address leads to a node exactly when the pair is
    in the list (`mem_nodes_iff`), and no address occurs twice (`nodup_addresses`).

    `collapsible` looks for nodes whose children are all leaves and stops where it finds one.
    It misses none by that: `collapsible_eq_mergeable` says that it is a filter of `nodes`.

    `countNodes` adds up the lengths of the lists of children along a walk with a stack, and
    gives the size of the tree (`countNodes_eq_size`).
-/

namespace SourceCensus.Tree

variable {t n : Tree} {a : Address}

/-! ## Nodes in pre-order -/

mutual

/-- The nodes below and at an address `here` with their addresses, in pre-order. -/
def nodesFrom (here : Address) : Tree → List (Address × Tree)
  | .node i cs => (here, .node i cs) :: nodesAmong here 0 cs

/-- The same for the children from an index on. -/
def nodesAmong (here : Address) (index : Nat) : List Tree → List (Address × Tree)
  | [] => []
  | t :: ts => nodesFrom (here ++ [index]) t ++ nodesAmong here (index + 1) ts

end

/-- The nodes of a tree with their addresses, in pre-order. -/
def nodes (t : Tree) : List (Address × Tree) := nodesFrom [] t

mutual

theorem mem_nodesFrom_iff (here : Address) (t : Tree) (p : Address × Tree) :
    p ∈ nodesFrom here t ↔ ∃ a, p.1 = here ++ a ∧ t.get? a = some p.2 := by
  cases t with
  | node i cs =>
    rw [nodesFrom, List.mem_cons, mem_nodesAmong_iff here 0 cs p]
    constructor
    · rintro (rfl | ⟨k, a, c, hp, hc, hn⟩)
      · exact ⟨[], by simp, by simp⟩
      · refine ⟨k :: a, by simpa using hp, ?_⟩
        rw [get?_cons, children, hc, Option.bind_some, hn]
    · rintro ⟨a, hp, hn⟩
      cases a with
      | nil =>
        left
        rw [get?_nil, Option.some.injEq] at hn
        exact Prod.ext (by simpa using hp) hn.symm
      | cons k a =>
        right
        rw [get?_cons] at hn
        obtain ⟨c, hc, hn⟩ := Option.bind_eq_some_iff.1 hn
        exact ⟨k, a, c, by simpa using hp, hc, hn⟩

theorem mem_nodesAmong_iff (here : Address) (index : Nat) (ts : List Tree) (p : Address × Tree) :
    p ∈ nodesAmong here index ts ↔
      ∃ k a c, p.1 = here ++ (index + k) :: a ∧ ts[k]? = some c ∧ c.get? a = some p.2 := by
  cases ts with
  | nil => simp [nodesAmong]
  | cons t ts =>
    rw [nodesAmong, List.mem_append, mem_nodesFrom_iff (here ++ [index]) t p,
      mem_nodesAmong_iff here (index + 1) ts p]
    constructor
    · rintro (⟨a, hp, hn⟩ | ⟨k, a, c, hp, hc, hn⟩)
      · exact ⟨0, a, t, by simpa using hp, rfl, hn⟩
      · refine ⟨k + 1, a, c, ?_, hc, hn⟩
        rw [hp, show index + 1 + k = index + (k + 1) from by omega]
    · rintro ⟨k, a, c, hp, hc, hn⟩
      cases k with
      | zero =>
        obtain rfl : t = c := by simpa using hc
        exact .inl ⟨a, by simpa using hp, hn⟩
      | succ k =>
        refine .inr ⟨k, a, c, ?_, hc, hn⟩
        rw [hp, show index + (k + 1) = index + 1 + k from by omega]

end

/-- **Addresses and nodes.** A node is listed under an address exactly when the address leads
    to it. -/
theorem mem_nodes_iff : (a, n) ∈ t.nodes ↔ t.get? a = some n := by
  rw [nodes, mem_nodesFrom_iff]
  simp

/-- What holds at every address can be checked along the list of nodes. -/
theorem forall_nodes_iff {P : Address → Tree → Prop} :
    (∀ p ∈ t.nodes, P p.1 p.2) ↔ ∀ a n, t.get? a = some n → P a n := by
  constructor
  · intro h a n hn
    exact h (a, n) (mem_nodes_iff.2 hn)
  · rintro h ⟨a, n⟩ hp
    exact h a n (mem_nodes_iff.1 hp)

instance : DecidablePred Linked := fun t =>
  decidable_of_iff (∀ p ∈ t.nodes, p.1 ≠ [] → p.2.info.linked = true) <|
    (forall_nodes_iff (P := fun a n => a ≠ [] → n.info.linked = true)).trans
      ⟨fun h a n ha hn => h a n hn ha, fun h a n hn ha => h a n ha hn⟩

mutual

theorem nodup_addressesFrom (here : Address) (t : Tree) :
    ((nodesFrom here t).map (·.1)).Nodup := by
  cases t with
  | node i cs =>
    rw [nodesFrom, List.map_cons, List.nodup_cons]
    refine ⟨?_, nodup_addressesAmong here 0 cs⟩
    -- the addresses of the children are longer
    intro hmem
    obtain ⟨p, hp, heq⟩ := List.mem_map.1 hmem
    obtain ⟨k, a, c, hk, -, -⟩ := (mem_nodesAmong_iff here 0 cs p).1 hp
    rw [heq] at hk
    simp at hk

theorem nodup_addressesAmong (here : Address) (index : Nat) (ts : List Tree) :
    ((nodesAmong here index ts).map (·.1)).Nodup := by
  cases ts with
  | nil => simp [nodesAmong]
  | cons t ts =>
    rw [nodesAmong, List.map_append, List.nodup_append]
    refine ⟨nodup_addressesFrom (here ++ [index]) t, nodup_addressesAmong here (index + 1) ts, ?_⟩
    -- the addresses of different children differ in the index of the child
    intro a ha b hb hab
    obtain ⟨p, hp, rfl⟩ := List.mem_map.1 ha
    obtain ⟨q, hq, rfl⟩ := List.mem_map.1 hb
    obtain ⟨r, hr, -⟩ := (mem_nodesFrom_iff _ t p).1 hp
    obtain ⟨k, s, c, hs, -, -⟩ := (mem_nodesAmong_iff here (index + 1) ts q).1 hq
    rw [hr, hs, List.append_assoc, List.append_cancel_left_eq, List.singleton_append,
      List.cons.injEq] at hab
    omega

end

theorem nodup_addresses (t : Tree) : (t.nodes.map (·.1)).Nodup := nodup_addressesFrom [] t

/-! ## Nodes that can be merged -/

/-- The addresses of the nodes whose children are all leaves, of a list of nodes. -/
def mergeableOf (ns : List (Address × Tree)) : List Address :=
  (ns.filter fun p => p.2.canMerge).map (·.1)

/-- The addresses of all nodes whose children are all leaves, in pre-order. -/
def mergeable (t : Tree) : List Address := mergeableOf t.nodes

@[simp] theorem mergeableOf_append (ns ms : List (Address × Tree)) :
    mergeableOf (ns ++ ms) = mergeableOf ns ++ mergeableOf ms := by
  simp [mergeableOf]

theorem mem_mergeable_iff :
    a ∈ t.mergeable ↔ ∃ n, t.get? a = some n ∧ n.canMerge = true := by
  rw [mergeable, mergeableOf, List.mem_map]
  constructor
  · rintro ⟨⟨b, n⟩, hmem, rfl⟩
    obtain ⟨hn, hmerge⟩ := List.mem_filter.1 hmem
    exact ⟨n, mem_nodes_iff.1 hn, hmerge⟩
  · rintro ⟨n, hn, hmerge⟩
    exact ⟨(a, n), List.mem_filter.2 ⟨mem_nodes_iff.2 hn, hmerge⟩, rfl⟩

theorem nodup_mergeable (t : Tree) : t.mergeable.Nodup :=
  (nodup_addresses t).sublist (List.filter_sublist.map _)

mutual

theorem collapsibleFrom_eq (here : Address) (t : Tree) :
    collapsibleFrom here t = mergeableOf (nodesFrom here t) := by
  cases t with
  | node i cs =>
    rw [collapsibleFrom, nodesFrom]
    have hamong := collapsibleAmong_eq here 0 cs
    by_cases hmerge : canMerge (.node i cs) = true
    · -- the search stops here, and nothing below can be merged
      have hbelow : mergeableOf (nodesAmong here 0 cs) = [] := by
        rw [mergeableOf, List.map_eq_nil_iff, List.filter_eq_nil_iff]
        intro p hp hpm
        obtain ⟨k, a, c, -, hc, hn⟩ := (mem_nodesAmong_iff here 0 cs p).1 hp
        have hn' : (Tree.node i cs).get? (k :: a) = some p.2 := by
          rw [get?_cons, children, hc, Option.bind_some, hn]
        rw [canMerge_of_get?_cons hn' hpm] at hmerge
        cases hmerge
      have hhead : mergeableOf ((here, .node i cs) :: nodesAmong here 0 cs) =
          here :: mergeableOf (nodesAmong here 0 cs) := by
        simp [mergeableOf, hmerge]
      rw [if_pos hmerge, hhead, hbelow]
    · have hhead : mergeableOf ((here, .node i cs) :: nodesAmong here 0 cs) =
          mergeableOf (nodesAmong here 0 cs) := by
        simp [mergeableOf, hmerge]
      rw [if_neg hmerge, hhead, hamong]

theorem collapsibleAmong_eq (here : Address) (index : Nat) (ts : List Tree) :
    collapsibleAmong here index ts = mergeableOf (nodesAmong here index ts) := by
  cases ts with
  | nil => rfl
  | cons t ts =>
    rw [collapsibleAmong, nodesAmong, mergeableOf_append, collapsibleFrom_eq (here ++ [index]) t,
      collapsibleAmong_eq here (index + 1) ts]

end

/-- **The early stop misses nothing.** -/
theorem collapsible_eq_mergeable (t : Tree) : t.collapsible = t.mergeable := collapsibleFrom_eq [] t

/-! ## A tree that has nothing to merge -/

mutual

/-- A node with children has a node below or at it whose children are all leaves. -/
theorem exists_mergeable (t : Tree) (h : t.isLeaf = false) :
    ∃ a n, t.get? a = some n ∧ n.canMerge = true := by
  cases t with
  | node i cs =>
    by_cases hall : cs.all isLeaf = true
    · refine ⟨[], .node i cs, by simp, ?_⟩
      rw [isLeaf_node] at h
      simp [canMerge, children, h, hall]
    · obtain ⟨k, c, a, n, hc, hn, hmerge⟩ := exists_mergeable_among cs hall
      refine ⟨k :: a, n, ?_, hmerge⟩
      rw [get?_cons, children, hc, Option.bind_some, hn]

theorem exists_mergeable_among (ts : List Tree) (h : ¬ ts.all isLeaf = true) :
    ∃ (k : Nat) (c : Tree) (a : Address) (n : Tree),
      ts[k]? = some c ∧ c.get? a = some n ∧ n.canMerge = true := by
  cases ts with
  | nil => simp at h
  | cons t ts =>
    by_cases hleaf : t.isLeaf = true
    · have hrest : ¬ ts.all isLeaf = true := by simpa [hleaf] using h
      obtain ⟨k, c, a, n, hc, hn, hmerge⟩ := exists_mergeable_among ts hrest
      exact ⟨k + 1, c, a, n, hc, hn, hmerge⟩
    · obtain ⟨a, n, hn, hmerge⟩ := exists_mergeable t (by simpa using hleaf)
      exact ⟨0, t, a, n, rfl, hn, hmerge⟩

end

/-- Nothing can be merged in a single leaf, and in no other tree is that so. -/
theorem mergeable_eq_nil_iff : t.mergeable = [] ↔ t.isLeaf = true := by
  constructor
  · intro hnil
    cases hleaf : t.isLeaf with
    | true => rfl
    | false =>
      obtain ⟨a, n, hn, hmerge⟩ := exists_mergeable t hleaf
      have hmem : a ∈ t.mergeable := mem_mergeable_iff.2 ⟨n, hn, hmerge⟩
      rw [hnil] at hmem
      cases hmem
  · intro hleaf
    refine List.eq_nil_iff_forall_not_mem.2 fun a ha => ?_
    obtain ⟨n, hn, hmerge⟩ := mem_mergeable_iff.1 ha
    cases a with
    | nil =>
      rw [get?_nil, Option.some.injEq] at hn
      rw [hn, isLeaf_of_canMerge hmerge] at hleaf
      cases hleaf
    | cons i a =>
      rw [get?_cons_of_isLeaf hleaf] at hn
      cases hn

/-! ## Counting -/

theorem size_of_isLeaf (h : t.isLeaf = true) : t.size = 1 := by
  rw [size_eq, isLeaf_iff.1 h, sizes]

theorem sizes_of_forall_isLeaf {ts : List Tree} (h : ∀ c ∈ ts, c.isLeaf = true) :
    sizes ts = ts.length := by
  induction ts with
  | nil => rfl
  | cons t ts ih =>
    have h1 := size_of_isLeaf (h t (by simp))
    have h2 := ih fun c hc => h c (by simp [hc])
    rw [sizes, List.length_cons]
    omega

theorem size_of_canMerge (h : t.canMerge = true) : t.size = 1 + t.children.length := by
  rw [size_eq, sizes_of_forall_isLeaf (canMerge_iff.1 h).2]

/-- Every tree on the stack has its top counted by the length of the stack, and all else by the
    children met on the walk. -/
theorem childCounts_walkStack (stack : List Tree) :
    stack.length + ((walkStack stack).map fun n => n.children.length).foldr (· + ·) 0 =
      sizes stack := by
  fun_induction walkStack stack with
  | case1 => rfl
  | case2 t stack ih =>
    rw [sizes_append, List.length_append] at ih
    rw [List.map_cons, List.foldr_cons, List.length_cons, sizes, size_eq]
    omega

/-- **Counting.** The count along the walk is the number of nodes. -/
theorem countNodes_eq_size (t : Tree) : t.countNodes = t.size := by
  have h := childCounts_walkStack [t]
  simp only [sizes, List.length_singleton] at h
  rw [countNodes, walk]
  omega

end SourceCensus.Tree
