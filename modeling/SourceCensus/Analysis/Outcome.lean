import SourceCensus.Config.Basic
import SourceCensus.Json.Integer
import SourceCensus.Tree.Basic

/-! # Outcomes

    An analysis either leads to a tree or fails with a text. Both kinds of outcome carry the
    folder that was looked at, the number of nodes that the tree was allowed, and a summary,
    which may be empty.
-/

namespace SourceCensus

open Json (Value Members IntegerError)

/-! ## Summaries -/

/-- What a complete analysis counts. -/
structure Summary where
  /-- Files that were analysed. -/
  filesAnalyzed : Nat
  /-- Lines of all of them. -/
  totalLines : Int
  /-- Nodes of the tree that was built. -/
  nodesBefore : Nat
  /-- Nodes that are left of it. -/
  nodesAfter : Nat
  deriving DecidableEq, Repr

/-- A summary as members. -/
def Summary.toMembers (s : Summary) : Members :=
  [("files_analyzed", .int s.filesAnalyzed), ("total_lines", .int s.totalLines),
   ("nodes_before_collapse", .int s.nodesBefore), ("nodes_after_collapse", .int s.nodesAfter)]

/-! ## Outcomes -/

/-- What came of an analysis. -/
structure Outcome where
  /-- The tree; a failed analysis has none. -/
  tree : Option Tree
  /-- Why the analysis failed; empty when it did not. -/
  error : String
  /-- The folder that was looked at. -/
  basePath : String
  /-- The number of nodes that the tree was allowed. -/
  maxNodeCount : Int
  /-- The file to which the tree was written; empty when there is none. -/
  outputPath : String
  /-- What was counted. -/
  summary : Members

namespace Outcome

/-- The analysis led to a tree. -/
def ok (o : Outcome) : Bool := o.tree.isSome

/-- A failed analysis. -/
def failed (error basePath : String) (maxNodeCount : Int) (summary : Members) : Outcome where
  tree := none
  error := error
  basePath := basePath
  maxNodeCount := maxNodeCount
  outputPath := ""
  summary := summary

/-- An analysis that led to a tree. -/
def succeeded (tree : Tree) (basePath : String) (maxNodeCount : Int) (outputPath : String)
    (summary : Members) : Outcome where
  tree := some tree
  error := ""
  basePath := basePath
  maxNodeCount := maxNodeCount
  outputPath := outputPath
  summary := summary

/-! ## Counts of configurations that were not checked -/

/-- Why a configuration has no number of nodes. -/
inductive CountError where
  /-- The member is not there. -/
  | missing
  /-- The member is no integer. -/
  | integer (e : IntegerError)
  deriving DecidableEq, Repr

/-- The text of a count error: a missing member is reported by its name. -/
def CountError.message : CountError → String
  | .missing => Text.quotedString Settings.maxNodeCountName
  | .integer e => e.message

/-- The number of nodes in a configuration. -/
def nodeCount (ms : Members) : Except CountError Int :=
  match ms.get? Settings.maxNodeCountName with
  | none => .error .missing
  | some v =>
    match v.toInteger with
    | .ok n => .ok n
    | .error e => .error (.integer e)

/-- The number of nodes in the configuration of an analysis that failed: zero when there is no
    such member or nothing in it. -/
def nodeCountOrZero (ms : Members) : Except CountError Int :=
  match ms.get? Settings.maxNodeCountName with
  | none => .ok 0
  | some v => if v.truthy then nodeCount ms else .ok 0

end Outcome

end SourceCensus
