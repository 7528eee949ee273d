import SourceCensus.Tree.Basic

/-! # Traversals

    The nodes of a tree in pre-order: a node comes before its children, and the children in
    their order. `preorder` says it by recursion; `walk` does it with an explicit stack, as
    the operations on a tree use it.

    `countNodes` counts the top and the children of every node. `collapsible` lists the nodes
    whose children are all leaves, without looking below them.
-/

namespace SourceCensus.Tree

/-! ## Pre-order -/

mutual

/-- The nodes in pre-order. -/
def preorder : Tree → List Tree
  | .node i cs => .node i cs :: preorders cs

/-- The nodes of several trees, one tree after the other. -/
def preorders : List Tree → List Tree
  | [] => []
  | t :: ts => preorder t ++ preorders ts

end

/-- The nodes that a stack of trees yet to visit leads to: the node on top is visited, and its
    children take its place. -/
def walkStack : List Tree → List Tree
  | [] => []
  | t :: stack => t :: walkStack (t.children ++ stack)
termination_by stack => sizes stack
decreasing_by
  simp only [sizes_append, sizes, size_eq t]; omega

/-- The nodes of a tree, visited with a stack. -/
def walk (t : Tree) : List Tree := walkStack [t]

/-! ## Counting -/

/-- Number of nodes: the top, and the children of every node. -/
def countNodes (t : Tree) : Nat := 1 + (t.walk.map fun n => n.children.length).foldr (· + ·) 0

/-! ## Nodes that can be collapsed -/

mutual

/-- The addresses of the nodes whose children are all leaves, in pre-order, below a node at the
    address `here`. -/
def collapsibleFrom (here : Address) : Tree → List Address
  | .node i cs => if canMerge (.node i cs) then [here] else collapsibleAmong here 0 cs

/-- The same for the children from an index on. -/
def collapsibleAmong (here : Address) (index : Nat) : List Tree → List Address
  | [] => []
  | t :: ts => collapsibleFrom (here ++ [index]) t ++ collapsibleAmong here (index + 1) ts

end

/-- The addresses of the nodes whose children are all leaves. -/
def collapsible (t : Tree) : List Address := collapsibleFrom [] t

end SourceCensus.Tree
