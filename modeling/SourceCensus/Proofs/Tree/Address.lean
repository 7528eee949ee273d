import SourceCensus.Tree.Traversal

/-! # Addresses and replacement

    An address leads from the top of a tree to one of its nodes. This file says what becomes
    of the other nodes when the node at an address is replaced:

    - a node neither above nor below the address stays (`get?_replace_apart`);
    - a node above it keeps what it carries and holds the replacement further down
      (`get?_replace_above`);
    - below the address stand the nodes of the replacement (`get?_replace_append`).

    Nodes whose children are all leaves are never above one another
    (`eq_of_canMerge_above`), and `canMerge_replace_leaf` says which nodes are of that kind
    once one of them has become a leaf: the others, and perhaps its parent.

    A tree is `Linked` when every node below the top knows its parent, as it does where every
    child was attached with `addChild` (`Linked.addChild`).
-/

namespace SourceCensus.Tree

variable {t old new n m : Tree} {a b : Address} {i : Nat}

/-! ## Descending -/

@[simp] theorem get?_nil (t : Tree) : t.get? [] = some t := by
  cases t; rfl

theorem get?_cons (t : Tree) (i : Nat) (a : Address) :
    t.get? (i :: a) = t.children[i]?.bind (·.get? a) := by
  cases t with
  | node info cs =>
    simp only [get?, children]
    cases cs[i]? <;> rfl

theorem get?_append (t : Tree) (a b : Address) :
    t.get? (a ++ b) = (t.get? a).bind (·.get? b) := by
  induction a generalizing t with
  | nil => simp
  | cons i a ih =>
    rw [List.cons_append, get?_cons, get?_cons]
    cases t.children[i]? with
    | none => rfl
    | some c => exact ih c

theorem get?_append_of_some (h : t.get? a = some n) (b : Address) :
    t.get? (a ++ b) = n.get? b := by
  rw [get?_append, h, Option.bind_some]

/-- Every node on the way to a node is there. -/
theorem exists_get?_of_append (h : t.get? (a ++ b) = some n) :
    ∃ m, t.get? a = some m ∧ m.get? b = some n := by
  rw [get?_append] at h
  exact Option.bind_eq_some_iff.1 h

/-! ## Leaves and their parents -/

@[simp] theorem isLeaf_node (info : NodeInfo) (cs : List Tree) :
    (Tree.node info cs).isLeaf = cs.isEmpty := rfl

theorem isLeaf_iff : t.isLeaf = true ↔ t.children = [] := List.isEmpty_iff

theorem get?_cons_of_isLeaf (h : t.isLeaf = true) (i : Nat) (a : Address) :
    t.get? (i :: a) = none := by
  rw [get?_cons, isLeaf_iff.1 h]
  rfl

theorem isLeaf_of_get?_cons (h : t.get? (i :: a) = some n) : t.isLeaf = false := by
  cases hleaf : t.isLeaf with
  | false => rfl
  | true =>
    rw [get?_cons_of_isLeaf hleaf] at h
    cases h

theorem canMerge_iff : t.canMerge = true ↔
    t.children ≠ [] ∧ ∀ c ∈ t.children, c.isLeaf = true := by
  simp [canMerge, isLeaf]

theorem isLeaf_of_canMerge (h : t.canMerge = true) : t.isLeaf = false := by
  have := (canMerge_iff.1 h).1
  simpa [isLeaf] using this

/-- Below a node whose children are leaves there is nothing but these leaves. -/
theorem eq_nil_of_canMerge (h : t.canMerge = true) (hn : t.get? (i :: a) = some n) :
    a = [] ∧ n.isLeaf = true := by
  rw [get?_cons] at hn
  obtain ⟨c, hc, hn⟩ := Option.bind_eq_some_iff.1 hn
  have hleaf := (canMerge_iff.1 h).2 c (List.mem_of_getElem? hc)
  cases a with
  | nil =>
    rw [get?_nil, Option.some.injEq] at hn
    exact ⟨rfl, hn ▸ hleaf⟩
  | cons j a =>
    rw [get?_cons_of_isLeaf hleaf] at hn
    cases hn

/-- A node above one that can be merged cannot be merged itself. -/
theorem canMerge_of_get?_cons (hn : t.get? (i :: a) = some n) (hmerge : n.canMerge = true) :
    t.canMerge = false := by
  cases hm : t.canMerge with
  | false => rfl
  | true =>
    have hleaf := (eq_nil_of_canMerge hm hn).2
    rw [isLeaf_of_canMerge hmerge] at hleaf
    cases hleaf

/-- **Mergeable nodes are unrelated.** No node whose children are all leaves is above another
    one. -/
theorem eq_of_canMerge_above (hm : t.get? a = some m) (hma : m.canMerge = true)
    (hn : t.get? b = some n) (hnb : n.canMerge = true) (hab : a <+: b) : a = b := by
  obtain ⟨r, rfl⟩ := hab
  cases r with
  | nil => rw [List.append_nil]
  | cons i r =>
    rw [get?_append_of_some hm] at hn
    rw [canMerge_of_get?_cons hn hnb] at hma
    cases hma

/-! ## Replacing -/

@[simp] theorem replace_nil (t new : Tree) : t.replace [] new = new := rfl

theorem replace_cons {c : Tree} (hc : t.children[i]? = some c) (a : Address) (new : Tree) :
    t.replace (i :: a) new = .node t.info (t.children.set i (c.replace a new)) := by
  rw [replace, hc]

@[simp] theorem info_replace_cons (t : Tree) (i : Nat) (a : Address) (new : Tree) :
    (t.replace (i :: a) new).info = t.info := by
  rw [replace]
  cases t.children[i]? <;> rfl

theorem length_children_replace_cons (t : Tree) (i : Nat) (a : Address) (new : Tree) :
    (t.replace (i :: a) new).children.length = t.children.length := by
  rw [replace]
  cases t.children[i]? with
  | none => rfl
  | some c => simp [children]

@[simp] theorem isLeaf_replace_cons (t : Tree) (i : Nat) (a : Address) (new : Tree) :
    (t.replace (i :: a) new).isLeaf = t.isLeaf := by
  rw [Bool.eq_iff_iff, isLeaf_iff, isLeaf_iff, ← List.length_eq_zero_iff,
    length_children_replace_cons, List.length_eq_zero_iff]

/-- What is read off the children of a node does not change when a node further down is exchanged
    for one of which the same is read off. -/
theorem map_children_replace_cons {α : Type} {f : NodeInfo → α} (h : t.get? (i :: a) = some old)
    (hf : f new.info = f old.info) :
    (t.replace (i :: a) new).children.map (fun c => f c.info) =
      t.children.map (fun c => f c.info) := by
  rw [get?_cons] at h
  obtain ⟨c, hc, h⟩ := Option.bind_eq_some_iff.1 h
  -- the child on the way carries what it carried, unless it is the node itself
  have hchild : f (c.replace a new).info = f c.info := by
    cases a with
    | nil =>
      rw [get?_nil, Option.some.injEq] at h
      rw [replace_nil, hf, h]
    | cons j a => rw [info_replace_cons]
  have hself : t.children.set i c = t.children := by
    obtain ⟨hi, hci⟩ := List.getElem?_eq_some_iff.1 hc
    rw [← hci, List.set_getElem_self]
  have hmap := congrArg (List.map fun c => f c.info) hself
  rw [List.map_set] at hmap
  rw [replace_cons hc, children, List.map_set, hchild, hmap]

theorem get?_replace_append (h : t.get? a = some old) (new : Tree) (b : Address) :
    (t.replace a new).get? (a ++ b) = new.get? b := by
  induction a generalizing t with
  | nil => simp
  | cons i a ih =>
    rw [get?_cons] at h
    obtain ⟨c, hc, h⟩ := Option.bind_eq_some_iff.1 h
    have hi : i < t.children.length := (List.getElem?_eq_some_iff.1 hc).1
    rw [replace_cons hc, List.cons_append, get?_cons, children,
      List.getElem?_set_self hi, Option.bind_some]
    exact ih h

theorem get?_replace_self (h : t.get? a = some old) (new : Tree) :
    (t.replace a new).get? a = some new := by
  have := get?_replace_append h new []
  rwa [List.append_nil, get?_nil] at this

theorem get?_replace_above (hm : t.get? a = some m) (b : Address) (new : Tree) :
    (t.replace (a ++ b) new).get? a = some (m.replace b new) := by
  induction a generalizing t with
  | nil =>
    rw [get?_nil, Option.some.injEq] at hm
    rw [hm, List.nil_append, get?_nil]
  | cons i a ih =>
    rw [get?_cons] at hm
    obtain ⟨c, hc, hm⟩ := Option.bind_eq_some_iff.1 hm
    have hi : i < t.children.length := (List.getElem?_eq_some_iff.1 hc).1
    rw [List.cons_append, replace_cons hc, get?_cons, children,
      List.getElem?_set_self hi, Option.bind_some]
    exact ih hm

theorem get?_replace_apart (t new : Tree) (hab : ¬ a <+: b) (hba : ¬ b <+: a) :
    (t.replace a new).get? b = t.get? b := by
  induction a generalizing t b with
  | nil => exact absurd List.nil_prefix hab
  | cons i a ih =>
    cases b with
    | nil => exact absurd List.nil_prefix hba
    | cons j b =>
      cases hc : t.children[i]? with
      | none => rw [replace, hc]
      | some c =>
        rw [replace_cons hc, get?_cons, get?_cons, children]
        by_cases hij : i = j
        · subst hij
          have hi : i < t.children.length := (List.getElem?_eq_some_iff.1 hc).1
          have hab' : ¬ a <+: b := fun h => hab (List.cons_prefix_cons.2 ⟨rfl, h⟩)
          have hba' : ¬ b <+: a := fun h => hba (List.cons_prefix_cons.2 ⟨rfl, h⟩)
          rw [List.getElem?_set_self hi, hc, Option.bind_some, Option.bind_some]
          exact ih c hab' hba'
        · rw [List.getElem?_set_ne hij]

/-! ## A node becomes a leaf -/

/-- Where a node comes from when a leaf takes the place of another node: it is that leaf, or it
    was there before and stands apart, or it was there and holds the leaf now. -/
theorem get?_replace_leaf (h : t.get? a = some old) (hleaf : new.isLeaf = true)
    (hn : (t.replace a new).get? b = some n) :
    (b = a ∧ n = new) ∨
    (¬ a <+: b ∧ t.get? b = some n) ∨
    ∃ m i r, a = b ++ i :: r ∧ t.get? b = some m ∧ m.get? (i :: r) = some old ∧
      n = m.replace (i :: r) new := by
  by_cases hab : a <+: b
  · obtain ⟨r, rfl⟩ := hab
    rw [get?_replace_append h] at hn
    cases r with
    | nil =>
      rw [get?_nil, Option.some.injEq] at hn
      exact .inl ⟨List.append_nil a, hn.symm⟩
    | cons i r =>
      -- there is nothing below a leaf
      rw [get?_cons_of_isLeaf hleaf] at hn
      cases hn
  · by_cases hba : b <+: a
    · obtain ⟨r, rfl⟩ := hba
      cases r with
      | nil => exact absurd ⟨[], by simp⟩ hab
      | cons i r =>
        obtain ⟨m, hm, hold⟩ := exists_get?_of_append h
        rw [get?_replace_above hm, Option.some.injEq] at hn
        exact .inr (.inr ⟨m, i, r, rfl, hm, hold, hn.symm⟩)
    · rw [get?_replace_apart t new hab hba] at hn
      exact .inr (.inl ⟨hab, hn⟩)

/-- **Who can be merged next.** After a node has become a leaf, a node whose children are all
    leaves was of that kind before, or it is the parent. -/
theorem canMerge_replace_leaf (h : t.get? a = some old) (hleaf : new.isLeaf = true)
    (hn : (t.replace a new).get? b = some n) (hmerge : n.canMerge = true) :
    (b ≠ a ∧ t.get? b = some n) ∨ ∃ i, a = b ++ [i] := by
  rcases get?_replace_leaf h hleaf hn with
    ⟨-, rfl⟩ | ⟨hab, hsame⟩ | ⟨m, i, r, rfl, -, hold, rfl⟩
  · rw [isLeaf_of_canMerge hmerge] at hleaf
    cases hleaf
  · refine .inl ⟨?_, hsame⟩
    rintro rfl
    exact hab List.prefix_rfl
  · -- the leaf stands below `b`, and then right below it
    have hnew := get?_replace_self hold new
    obtain ⟨rfl, -⟩ := eq_nil_of_canMerge hmerge hnew
    exact .inr ⟨i, rfl⟩

/-! ## Parents -/

theorem parent?_eq_some_iff : t.parent? a = some (b, m) ↔
    ∃ i n, a = b ++ [i] ∧ t.get? a = some n ∧ n.info.linked = true ∧ t.get? b = some m := by
  rw [parent?]
  constructor
  · intro h
    obtain ⟨n, hn, h⟩ := Option.bind_eq_some_iff.1 h
    split at h
    · rename_i hlinked
      obtain ⟨up, hup, h⟩ := Option.bind_eq_some_iff.1 h
      obtain ⟨above, habove, h⟩ := Option.bind_eq_some_iff.1 h
      cases h
      cases a with
      | nil => cases hup
      | cons j a =>
        simp only [parentAddress?, Option.some.injEq] at hup
        have hsplit := List.dropLast_concat_getLast (List.cons_ne_nil j a)
        exact ⟨(j :: a).getLast (by simp), n, by rw [← hup, hsplit], hn, hlinked, habove⟩
    · cases h
  · rintro ⟨i, n, rfl, hn, hlinked, hm⟩
    have hup : parentAddress? (b ++ [i]) = some b := by
      cases b with
      | nil => rfl
      | cons j b =>
        have hdrop : (j :: b ++ [i]).dropLast = j :: b := List.dropLast_concat
        exact congrArg some hdrop
    simp [hn, hlinked, hup, hm]

/-- Every node below the top knows its parent. -/
def Linked (t : Tree) : Prop :=
  ∀ a n, a ≠ [] → t.get? a = some n → n.info.linked = true

/-- **Attaching children** one after the other gives a tree in which all are linked. -/
theorem Linked.addChild {c : Tree} (ht : t.Linked) (hc : c.Linked) : (t.addChild c).Linked := by
  -- on the address: its first number is that of an old child or of the new one
  intro a n ha hn
  cases a with
  | nil => exact absurd rfl ha
  | cons i a =>
    rw [get?_cons] at hn
    obtain ⟨d, hd, hn⟩ := Option.bind_eq_some_iff.1 hn
    rw [Tree.addChild, children, List.getElem?_append] at hd
    split at hd
    · exact ht (i :: a) n ha (by rw [get?_cons, hd, Option.bind_some, hn])
    · -- the new child knows its parent, and below it nothing has changed
      have hd' : d = c.withInfo { c.info with linked := true } := by
        have := List.mem_of_getElem? hd
        simpa using this
      subst hd'
      cases c with
      | node i cs =>
        cases a with
        | nil =>
          rw [get?_nil, Option.some.injEq] at hn
          rw [← hn]
          rfl
        | cons j a =>
          refine hc (j :: a) n (by simp) ?_
          rw [get?_cons] at hn ⊢
          exact hn

/-- A tree stays linked when a node becomes a leaf that knows its parent as the node did. -/
theorem Linked.replace_leaf (ht : t.Linked) (h : t.get? a = some old) (hleaf : new.isLeaf = true)
    (hlinked : new.info.linked = old.info.linked) : (t.replace a new).Linked := by
  intro b n hb hn
  rcases get?_replace_leaf h hleaf hn with
    ⟨rfl, rfl⟩ | ⟨-, hsame⟩ | ⟨m, i, r, rfl, hm, -, rfl⟩
  · rw [hlinked]
    exact ht b old hb h
  · exact ht b n hb hsame
  · rw [info_replace_cons]
    exact ht b m hb hm

end SourceCensus.Tree
