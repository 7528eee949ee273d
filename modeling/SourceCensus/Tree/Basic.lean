import SourceCensus.Stats.Basic

/-! # The statistics tree

    A tree has a node for every directory and file. A node carries a path, a number of lines
    and statistics, and owns its children in order. It may also know its parent: a child that
    was attached does, one that was passed to the constructor does not.

    A node is found by its address, the indices of the children to descend to. Replacing a
    node by another one changes no other address that still leads to a node.
-/

namespace SourceCensus

/-- What a node carries besides its children. -/
structure NodeInfo where
  /-- Path of the file or directory. -/
  path : String
  /-- Whether the node was made from a single file. -/
  isFile : Bool := false
  /-- Whether the node stands for children that were merged into it. -/
  isCollapsed : Bool := false
  /-- Number of lines; below zero while they are not known. -/
  lineCount : Int := -1
  /-- Statistics in category order. -/
  stats : StatsVector := []
  /-- Whether the node knows its parent. -/
  linked : Bool := false

/-- A node with its children. -/
inductive Tree where
  | node (info : NodeInfo) (children : List Tree)

namespace Tree

/-- What the node at the top carries. -/
def info : Tree → NodeInfo
  | .node i _ => i

/-- The children of the node at the top. -/
def children : Tree → List Tree
  | .node _ cs => cs

/-- The same children under a node that carries something else. -/
def withInfo (i : NodeInfo) : Tree → Tree
  | .node _ cs => .node i cs

/-- A node without children. -/
def isLeaf (t : Tree) : Bool := t.children.isEmpty

/-- A node with children, all of them leaves. -/
def canMerge (t : Tree) : Bool := !t.isLeaf && t.children.all isLeaf

/-- Attaches a child at the end and lets it know its parent. -/
def addChild (t child : Tree) : Tree :=
  .node t.info (t.children ++ [child.withInfo { child.info with linked := true }])

/-! ## Size -/

mutual

/-- Number of nodes. -/
def size : Tree → Nat
  | .node _ cs => 1 + sizes cs

/-- Number of nodes of several trees. -/
def sizes : List Tree → Nat
  | [] => 0
  | t :: ts => size t + sizes ts

end

theorem size_pos (t : Tree) : 0 < t.size := by
  cases t; simp only [size]; omega

theorem sizes_append (ts us : List Tree) : sizes (ts ++ us) = sizes ts + sizes us := by
  induction ts with
  | nil => simp [sizes]
  | cons t ts ih => simp [sizes, ih]; omega

theorem size_eq (t : Tree) : t.size = 1 + sizes t.children := by
  cases t; simp [size, children]

/-! ## Addresses -/

/-- The indices of the children to descend to. -/
abbrev Address := List Nat

/-- The node at an address. -/
def get? : Tree → Address → Option Tree
  | t, [] => some t
  | .node _ cs, i :: rest =>
    match cs[i]? with
    | none => none
    | some c => c.get? rest

/-- The tree with another node at an address; nothing changes where there is none. -/
def replace (t : Tree) : Address → Tree → Tree
  | [], new => new
  | i :: rest, new =>
    match t.children[i]? with
    | none => t
    | some c => .node t.info (t.children.set i (c.replace rest new))

/-- The address of the parent; the top has none. -/
def parentAddress? : Address → Option Address
  | [] => none
  | a => some a.dropLast

/-- The parent of the node at an address, if the node knows it. -/
def parent? (t : Tree) (a : Address) : Option (Address × Tree) := do
  let node ← t.get? a
  if node.info.linked then
    let up ← parentAddress? a
    let above ← t.get? up
    return (up, above)
  else none

theorem sizes_set {cs : List Tree} {i : Nat} {c new : Tree} (h : cs[i]? = some c) :
    sizes (cs.set i new) + c.size = sizes cs + new.size := by
  induction cs generalizing i with
  | nil => simp at h
  | cons d ds ih =>
    cases i with
    | zero =>
      simp only [List.getElem?_cons_zero, Option.some.injEq] at h
      subst h
      simp only [List.set_cons_zero, sizes]; omega
    | succ i =>
      simp only [List.getElem?_cons_succ] at h
      have := ih h
      simp only [List.set_cons_succ, sizes]; omega

/-- Replacing a node changes the number of nodes by the difference of the two. -/
theorem size_replace {t old new : Tree} {a : Address} (h : t.get? a = some old) :
    (t.replace a new).size + old.size = t.size + new.size := by
  induction a generalizing t with
  | nil =>
    simp only [get?, Option.some.injEq] at h
    subst h
    simp only [replace]; omega
  | cons i rest ih =>
    cases t with
    | node info cs =>
      simp only [get?] at h
      split at h
      · cases h
      · rename_i c hc
        have h1 := ih h
        have h2 : sizes (cs.set i (c.replace rest new)) + c.size
            = sizes cs + (c.replace rest new).size := sizes_set hc
        simp only [replace, children, hc, size]
        omega

end Tree

end SourceCensus
