import SourceCensus.Proofs.Tree.Nodes

/-! # Pre-order and the walk along it

    The walk with a stack meets the nodes of the recursive pre-order, in the same order
    (`walk_eq_preorder`), for every stack of trees that are yet to be visited
    (`walkStack_eq_preorders`). There are as many of them as the tree has nodes (`length_preorder`).
-/

namespace SourceCensus.Tree

/-! ## Pre-order -/

theorem preorders_eq (ts : List Tree) : preorders ts = ts.flatMap preorder := by
  induction ts with
  | nil => rfl
  | cons t ts ih => rw [preorders, ih, List.flatMap_cons]

theorem preorder_eq (t : Tree) : t.preorder = t :: t.children.flatMap preorder := by
  cases t with
  | node i cs => rw [preorder, preorders_eq, children]

theorem preorders_append (ts us : List Tree) :
    preorders (ts ++ us) = preorders ts ++ preorders us := by
  rw [preorders_eq, preorders_eq, preorders_eq, List.flatMap_append]

mutual

/-- A node is listed once for every node that is counted. -/
theorem length_preorder (t : Tree) : t.preorder.length = t.size := by
  cases t with
  | node i cs =>
    rw [preorder, size, List.length_cons, length_preorders cs]
    omega

theorem length_preorders (ts : List Tree) : (preorders ts).length = sizes ts := by
  cases ts with
  | nil => rfl
  | cons t ts => rw [preorders, sizes, List.length_append, length_preorder t, length_preorders ts]

end

/-! ## The walk -/

/-- A stack leads to the pre-orders of its trees, from the top of the stack on. -/
theorem walkStack_eq_preorders (stack : List Tree) : walkStack stack = preorders stack := by
  fun_induction walkStack stack with
  | case1 => rfl
  | case2 t stack ih =>
    -- the children stand on the stack in the place of their parent
    rw [ih, preorders_append, preorders, preorder_eq, preorders_eq t.children]
    rfl

/-- **The walk goes in pre-order.** -/
theorem walk_eq_preorder (t : Tree) : t.walk = t.preorder := by
  rw [walk, walkStack_eq_preorders, preorders, preorders, List.append_nil]

end SourceCensus.Tree
