import SourceCensus.Tree.Traversal
import SourceCensus.Number.Integer
import SourceCensus.Log.Entry

/-! # Collapsing a tree to a node budget

    A tree that has more nodes than its budget allows is shrunk by merges. A merge takes a
    node whose children are all leaves and makes it a leaf that stands for them: it keeps its
    path and carries the merged lines and statistics of the children.

    `merge` says what becomes of the node; `mergeChildren` makes the change in a tree, step by
    step, and counts the nodes that are gone.

    ## Order of merges

    Candidates wait in a queue. The one with the fewest lines goes first, and of several the
    one that was found first: those that can be merged at the start in pre-order, then each
    node at the moment its last child became a leaf. A candidate is ranked by the lines it
    had when it was queued.

    ## Counting

    The number of nodes is kept by subtraction; the tree is not counted again. Merging ends
    when the budget is met or no candidate is left.
-/

namespace SourceCensus

open Number

/-- Why a merge failed. -/
inductive MergeError where
  /-- The node has nothing to merge. -/
  | noChildren (path : String)
  /-- A child has children of its own. -/
  | nonLeafChild (path : String)
  /-- The merged statistics cannot be computed. -/
  | stats (e : StatsError)
  deriving DecidableEq, Repr

/-- The text of a merge error. -/
def MergeError.message : MergeError → String
  | .noChildren path => "Cannot merge children of '" ++ path ++ "': node has no children"
  | .nonLeafChild path => "Cannot merge children of '" ++ path ++ "': node has non-leaf children"
  | .stats e => e.message

/-- Why a tree cannot be collapsed. -/
inductive BudgetError where
  /-- A budget below one. -/
  | tooSmall (budget : Int)
  deriving DecidableEq, Repr

/-- The text of a budget error. -/
def BudgetError.message : BudgetError → String
  | .tooSmall budget => "max_node_count must be >= 1, received " ++ integerText budget ++ "."

namespace Tree

/-! ## Merging -/

/-- What a node carries once its children are merged into it. -/
def mergedInfo (t : Tree) : Except StatsError NodeInfo := do
  let (lineCount, stats) ← mergeStats (t.children.map fun c => (c.info.lineCount, c.info.stats))
  return { t.info with lineCount, stats, isCollapsed := true }

/-- The leaf that stands for a node and its children. -/
def merge (t : Tree) : Except MergeError Tree :=
  if t.isLeaf then .error (.noChildren t.info.path)
  else if !t.canMerge then .error (.nonLeafChild t.info.path)
  else match t.mergedInfo with
    | .error e => .error (.stats e)
    | .ok i => .ok (.node i [])

/-- The entry that reports a merge. -/
def mergeReport (before after : Tree) : LogEntry :=
  ⟨.debug, "Collapsed " ++ integerText before.children.length ++ " entries into '"
    ++ after.info.path ++ "' (" ++ integerText after.info.lineCount ++ " lines)"⟩

/-- A merge makes a tree smaller. -/
theorem size_merge {t new : Tree} (h : t.merge = .ok new) : new.size < t.size := by
  unfold merge at h
  split at h
  · cases h
  · split at h
    · cases h
    · rename_i hleaf _
      split at h
      · cases h
      · cases h
        cases t with
        | node i cs =>
          cases cs with
          | nil => simp [isLeaf, children] at hleaf
          | cons c cs =>
            have := size_pos c
            simp only [size, sizes]; omega

/-! ### In place -/

/-- A tree that is worked on, with the entries made. -/
structure Workpiece where
  /-- The tree as it stands. -/
  tree : Tree
  /-- Entries so far. -/
  log : List LogEntry

/-- Work on a tree that may fail. What was done before a failure stays done. -/
abbrev TreeWork := ExceptT MergeError (StateM Workpiece)

/-- The tree after a change of the node at an address. -/
def changeAt (t : Tree) (a : Address) (f : Tree → Tree) : Tree :=
  match t.get? a with
  | none => t
  | some n => t.replace a (f n)

/-- Changes the node at an address. -/
def change (a : Address) (f : Tree → Tree) : TreeWork Unit :=
  modify fun w => { w with tree := w.tree.changeAt a f }

/-- Makes the node `n` at an address a leaf that stands for its children, and gives the number of
    nodes that are gone. -/
def mergeChildren (a : Address) (n : Tree) : TreeWork Nat := do
  if n.isLeaf then throw (.noChildren n.info.path)
  if !n.canMerge then throw (.nonLeafChild n.info.path)
  match mergeStats (n.children.map fun c => (c.info.lineCount, c.info.stats)) with
  | .error e => throw (.stats e)
  | .ok (lineCount, stats) =>
    change a fun m => m.withInfo { m.info with lineCount, stats }
    change a fun m => .node m.info []
    change a fun m => m.withInfo { m.info with isCollapsed := true }
    modify fun w => { w with
      log := w.log ++ [mergeReport n (.node { n.info with lineCount, stats } [])] }
    return n.children.length

/-! ## The queue -/

/-- A node that waits to be merged. -/
structure Candidate where
  /-- Lines of the node when it was queued. -/
  lineCount : Int
  /-- How many candidates were queued before it. -/
  order : Nat
  /-- Where the node stands. -/
  address : Address
  deriving DecidableEq, Repr

/-- The first candidate goes before the second. -/
def Candidate.before (a b : Candidate) : Bool :=
  a.lineCount < b.lineCount || (a.lineCount = b.lineCount && a.order < b.order)

/-- Puts a candidate in its place among candidates in order. -/
def enqueue (c : Candidate) : List Candidate → List Candidate
  | [] => [c]
  | d :: rest => if c.before d then c :: d :: rest else d :: enqueue c rest

/-! ## The run -/

/-- A run of merges at some moment. -/
structure Collapsing where
  /-- The tree so far. -/
  tree : Tree
  /-- Number of nodes below and at the node to collapse. -/
  total : Int
  /-- Candidates in order. -/
  queue : List Candidate
  /-- Number of candidates queued so far. -/
  queued : Nat
  /-- Addresses of the merged nodes, in order. -/
  merged : List Address
  /-- Entries so far. -/
  log : List LogEntry

namespace Collapsing

/-- Queues the node at an address. -/
def push (s : Collapsing) (a : Address) (lineCount : Int) : Collapsing :=
  { s with queue := enqueue ⟨lineCount, s.queued, a⟩ s.queue, queued := s.queued + 1 }

/-- Queues the parent of a merged node if the node knows it and it can be merged now. -/
def pushParent (s : Collapsing) (a : Address) : Collapsing :=
  match s.tree.parent? a with
  | some (up, above) => if above.canMerge then s.push up above.info.lineCount else s
  | none => s

theorem tree_pushParent (s : Collapsing) (a : Address) : (s.pushParent a).tree = s.tree := by
  unfold pushParent
  split
  · split <;> rfl
  · rfl

/-- How a run ended. -/
inductive Ending where
  /-- No merge failed. -/
  | finished
  /-- A merge failed; the merges before it stand. -/
  | failed (e : MergeError)
  deriving DecidableEq, Repr

/-- The run after the first candidate, a node `old`, has become the leaf `new`. -/
def replaceFirst (s : Collapsing) (c : Candidate) (rest : List Candidate) (old new : Tree) :
    Collapsing :=
  { s with
    tree := s.tree.replace c.address new
    total := s.total - old.children.length
    queue := rest
    merged := s.merged ++ [c.address]
    log := s.log ++ [mergeReport old new] }

/-- A merge of the first candidate, after which its parent may be a candidate. -/
def mergeFirst (s : Collapsing) (c : Candidate) (rest : List Candidate) (old new : Tree) :
    Collapsing :=
  (s.replaceFirst c rest old new).pushParent c.address

/-- What one turn of the loop comes to. -/
inductive Turn where
  /-- The run ends. -/
  | stop (s : Collapsing) (ending : Ending)
  /-- A node was merged, and the run goes on. -/
  | go (s : Collapsing)

/-- One turn: unless the budget is met or no candidate is left, the first candidate is merged. -/
def turn (budget : Int) (s : Collapsing) : Turn :=
  if s.total ≤ budget then .stop s .finished
  else match s.queue with
    | [] => .stop s .finished
    | c :: rest =>
      match s.tree.get? c.address with
      -- no candidate leaves the tree; where there were no node there would be nothing to merge
      | none => .stop { s with queue := rest } (.failed (.noChildren ""))
      | some old =>
        match old.merge with
        | .error e => .stop { s with queue := rest } (.failed e)
        | .ok new => .go (s.mergeFirst c rest old new)

/-- What a turn that merges finds and does. -/
theorem turn_eq_go {budget : Int} {s next : Collapsing} (h : s.turn budget = .go next) :
    ∃ c rest old new, budget < s.total ∧ s.queue = c :: rest ∧
      s.tree.get? c.address = some old ∧ old.merge = .ok new ∧
      next = s.mergeFirst c rest old new := by
  unfold turn at h
  split at h
  · cases h
  · rename_i htotal
    split at h
    · cases h
    · rename_i c rest hqueue
      split at h
      · cases h
      · rename_i old hold
        split at h
        · cases h
        · rename_i new hnew
          cases h
          exact ⟨c, rest, old, new, by omega, hqueue, hold, hnew, rfl⟩

theorem size_turn {budget : Int} {s next : Collapsing} (h : s.turn budget = .go next) :
    next.tree.size < s.tree.size := by
  obtain ⟨c, rest, old, new, -, -, hold, hnew, rfl⟩ := turn_eq_go h
  have h1 : (s.tree.replace c.address new).size + old.size = s.tree.size + new.size :=
    size_replace hold
  have h2 := size_merge hnew
  rw [mergeFirst, tree_pushParent]
  show (s.tree.replace c.address new).size < s.tree.size
  omega

/-- Merges candidates until the budget is met or none is left. -/
def run (budget : Int) (s : Collapsing) : Collapsing × Ending :=
  match _h : s.turn budget with
  | .stop last ending => (last, ending)
  | .go next => run budget next
termination_by s.tree.size
decreasing_by exact size_turn _h

end Collapsing

/-! ## Collapsing -/

/-- The state before the first merge: every node below `root` that can be merged is queued. -/
def startCollapsing (t : Tree) (root : Address) (below : Tree) : Collapsing :=
  (collapsibleFrom root below).foldl
    (fun s a => s.push a (((t.get? a).map (·.info.lineCount)).getD 0))
    { tree := t, total := below.countNodes, queue := [], queued := 0, merged := [], log := [] }

/-- The entries that end a run. -/
def closingEntries (initial budget : Int) (s : Collapsing) : List LogEntry :=
  let counts := integerText initial ++ " to " ++ integerText s.total
  let report : LogEntry := ⟨.info, "Collapsed tree from " ++ counts ++ " nodes in "
    ++ integerText s.merged.length ++ " merges"⟩
  if budget < s.total then
    [⟨.warning, "Tree still has " ++ integerText s.total ++ " nodes after collapsing (budget "
      ++ integerText budget ++ ")"⟩, report]
  else [report]

/-- What came of collapsing. -/
structure Collapsed where
  /-- The whole tree after the last merge. -/
  tree : Tree
  /-- Addresses of the merged nodes, in order. -/
  merged : List Address
  /-- Entries made. -/
  log : List LogEntry
  /-- The error that ended the run early, if there was one. -/
  failure : Option MergeError

/-- Collapses the part of a tree below an address until it meets the budget. The rest of the
    tree can be reached through the parents of merged nodes. -/
def collapseAt (t : Tree) (root : Address) (budget : Int) : Except BudgetError Collapsed :=
  if budget < 1 then .error (.tooSmall budget)
  else
    match t.get? root with
    | none => .ok ⟨t, [], [], none⟩
    | some below =>
      let initial : Int := below.countNodes
      if initial ≤ budget then .ok ⟨t, [], [], none⟩
      else
        match (startCollapsing t root below).run budget with
        | (s, .finished) =>
          .ok ⟨s.tree, s.merged, s.log ++ closingEntries initial budget s, none⟩
        | (s, .failed e) => .ok ⟨s.tree, s.merged, s.log, some e⟩

/-- Collapses a whole tree. -/
def collapse (t : Tree) (budget : Int) : Except BudgetError Collapsed := t.collapseAt [] budget

end Tree

end SourceCensus
