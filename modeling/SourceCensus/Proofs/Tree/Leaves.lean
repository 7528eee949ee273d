import SourceCensus.Proofs.Tree.Nodes

/-! # The leaves of a tree

    `leaves` lists what the leaves of a tree carry, from left to right. Replacing a node
    exchanges a stretch of that list for the leaves of the replacement (`leaves_replace`), so
    a sum over the leaves changes by what the two nodes differ in.

    The one sum that decides whether statistics can be merged is `leafWeight`, the absolute
    values of the lines of all leaves. It is at most the same sum over all nodes
    (`leafWeight_le_lineMagnitude`).
-/

namespace SourceCensus

/-! ## Sums over what nodes carry -/

/-- The lines of several nodes together. -/
def lineSum (infos : List NodeInfo) : Int := (infos.map (·.lineCount)).foldr (· + ·) 0

/-- The absolute values of the lines of several nodes together. -/
def lineWeight (infos : List NodeInfo) : Nat :=
  (infos.map (·.lineCount.natAbs)).foldr (· + ·) 0

@[simp] theorem lineSum_cons (i : NodeInfo) (is : List NodeInfo) :
    lineSum (i :: is) = i.lineCount + lineSum is := rfl

@[simp] theorem lineWeight_nil : lineWeight [] = 0 := rfl

@[simp] theorem lineWeight_cons (i : NodeInfo) (is : List NodeInfo) :
    lineWeight (i :: is) = i.lineCount.natAbs + lineWeight is := rfl

@[simp] theorem lineWeight_append (is js : List NodeInfo) :
    lineWeight (is ++ js) = lineWeight is + lineWeight js := by
  induction is with
  | nil => simp
  | cons i is ih => simp [ih, Nat.add_assoc]

theorem natAbs_lineCount_le {i : NodeInfo} {is : List NodeInfo} (h : i ∈ is) :
    i.lineCount.natAbs ≤ lineWeight is := by
  induction is with
  | nil => cases h
  | cons j is ih =>
    rw [lineWeight_cons]
    rcases List.mem_cons.1 h with rfl | h
    · omega
    · have := ih h
      omega

theorem natAbs_lineSum_le (is : List NodeInfo) : (lineSum is).natAbs ≤ lineWeight is := by
  induction is with
  | nil => exact Nat.le_refl 0
  | cons i is ih =>
    rw [lineSum_cons, lineWeight_cons]
    omega

namespace Tree

variable {t old n : Tree} {a : Address}

/-! ## Leaves -/

mutual

/-- What the leaves of a tree carry, from left to right. -/
def leaves : Tree → List NodeInfo
  | .node i cs => if cs.isEmpty then [i] else leavesOf cs

/-- What the leaves of several trees carry. -/
def leavesOf : List Tree → List NodeInfo
  | [] => []
  | t :: ts => leaves t ++ leavesOf ts

end

theorem leaves_of_isLeaf (h : t.isLeaf = true) : t.leaves = [t.info] := by
  cases t with
  | node i cs =>
    rw [isLeaf_node] at h
    rw [leaves, if_pos h, info]

theorem leaves_of_not_isLeaf (h : t.isLeaf = false) : t.leaves = leavesOf t.children := by
  cases t with
  | node i cs =>
    rw [isLeaf_node] at h
    rw [leaves, h, children]
    rfl

theorem leavesOf_of_forall_isLeaf {ts : List Tree} (h : ∀ c ∈ ts, c.isLeaf = true) :
    leavesOf ts = ts.map info := by
  induction ts with
  | nil => rfl
  | cons t ts ih =>
    rw [leavesOf, leaves_of_isLeaf (h t (by simp)), ih fun c hc => h c (by simp [hc])]
    rfl

theorem leaves_of_canMerge (h : t.canMerge = true) : t.leaves = t.children.map info := by
  rw [leaves_of_not_isLeaf (isLeaf_of_canMerge h)]
  exact leavesOf_of_forall_isLeaf (canMerge_iff.1 h).2

theorem leavesOf_set {ts : List Tree} {i : Nat} {c : Tree} (h : ts[i]? = some c) :
    ∃ before after, leavesOf ts = before ++ c.leaves ++ after ∧
      ∀ d, leavesOf (ts.set i d) = before ++ d.leaves ++ after := by
  induction ts generalizing i with
  | nil => simp at h
  | cons t ts ih =>
    cases i with
    | zero =>
      obtain rfl : t = c := by simpa using h
      exact ⟨[], leavesOf ts, by simp [leavesOf], by simp [leavesOf]⟩
    | succ i =>
      obtain ⟨before, after, heq, hset⟩ := ih (by simpa using h)
      refine ⟨t.leaves ++ before, after, by simp [leavesOf, heq], fun d => ?_⟩
      simp [leavesOf, hset d]

/-- **Replacing a node exchanges its leaves** and leaves the others in their places. -/
theorem leaves_replace (h : t.get? a = some old) :
    ∃ before after, t.leaves = before ++ old.leaves ++ after ∧
      ∀ new, (t.replace a new).leaves = before ++ new.leaves ++ after := by
  induction a generalizing t with
  | nil =>
    rw [get?_nil, Option.some.injEq] at h
    exact ⟨[], [], by simp [h], by simp⟩
  | cons i a ih =>
    rw [get?_cons] at h
    obtain ⟨c, hc, h⟩ := Option.bind_eq_some_iff.1 h
    -- the leaves of the child lie within those of the children
    obtain ⟨before, after, heq, hset⟩ := ih h
    obtain ⟨before', after', heq', hset'⟩ := leavesOf_set hc
    have hne : t.children ≠ [] := List.ne_nil_of_mem (List.mem_of_getElem? hc)
    have hleaf : t.isLeaf = false := by simpa [isLeaf] using hne
    refine ⟨before' ++ before, after ++ after', ?_, fun new => ?_⟩
    · rw [leaves_of_not_isLeaf hleaf, heq', heq]
      simp
    · rw [replace_cons hc, leaves_of_not_isLeaf (by simpa using hne), children, hset', hset]
      simp

/-! ## Weights -/

/-- The absolute values of the lines of all leaves together. -/
def leafWeight (t : Tree) : Nat := lineWeight t.leaves

/-- The absolute values of the lines of all nodes together. -/
def lineMagnitude (t : Tree) : Nat := lineWeight (t.preorder.map info)

mutual

theorem leafWeight_le_lineMagnitude (t : Tree) : t.leafWeight ≤ t.lineMagnitude := by
  cases t with
  | node i cs =>
    have hbelow := lineWeight_leavesOf_le cs
    rw [leafWeight, lineMagnitude, leaves, preorder, List.map_cons, lineWeight_cons]
    split
    · simp [info]
    · omega

theorem lineWeight_leavesOf_le (ts : List Tree) :
    lineWeight (leavesOf ts) ≤ lineWeight ((preorders ts).map info) := by
  cases ts with
  | nil => exact Nat.le_refl 0
  | cons t ts =>
    have h1 : lineWeight t.leaves ≤ lineWeight (t.preorder.map info) :=
      leafWeight_le_lineMagnitude t
    have h2 := lineWeight_leavesOf_le ts
    rw [leavesOf, preorders, List.map_append, lineWeight_append, lineWeight_append]
    omega

end

/-- The leaves of a node weigh no more than those of the whole tree. -/
theorem leafWeight_le_of_get? (h : t.get? a = some n) : n.leafWeight ≤ t.leafWeight := by
  obtain ⟨before, after, heq, -⟩ := leaves_replace h
  rw [leafWeight, leafWeight, heq, lineWeight_append, lineWeight_append]
  omega

theorem leafWeight_replace_le {new : Tree} (h : t.get? a = some old)
    (hle : new.leafWeight ≤ old.leafWeight) : (t.replace a new).leafWeight ≤ t.leafWeight := by
  obtain ⟨before, after, heq, hset⟩ := leaves_replace h
  rw [leafWeight] at hle
  rw [leafWeight, leafWeight, hset, heq]
  simp only [lineWeight_append]
  rw [leafWeight] at hle
  omega

end Tree

end SourceCensus
