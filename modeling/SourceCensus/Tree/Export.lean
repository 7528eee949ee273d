import SourceCensus.Tree.Basic
import SourceCensus.Json.Writer

/-! # Exporting a tree

    A tree is exported as JSON for a renderer: every node with its fields, its statistics
    labelled with the names of their categories, and its children. A node with more
    statistics than there are categories cannot be exported. The exported document holds the
    legend beside the tree.
-/

namespace SourceCensus

open Json

/-- Why a tree cannot be exported. -/
inductive ExportError where
  /-- A node has more statistics than there are categories. -/
  | unlabelledStats
  deriving DecidableEq, Repr

/-- The text of an export error. -/
def ExportError.message : ExportError → String
  | .unlabelledStats => "tuple index out of range"

/-- The statistics of one category with its label. -/
def CategoryStats.toJson (label : String) (s : CategoryStats) : Value :=
  .object [("category", .string label), ("occurrences", .int s.occurrences),
    ("dispersion", .float s.dispersion)]

/-- A statistics vector, every entry with the label of its place. -/
def statsToJson (labels : List String) : StatsVector → Except ExportError (List Value)
  | [] => .ok []
  | s :: rest =>
    match labels with
    | [] => .error .unlabelledStats
    | label :: more => do return s.toJson label :: (← statsToJson more rest)

namespace Tree

mutual

/-- A tree as nested objects. -/
def toJson : Tree → Except ExportError Value
  | .node i cs => do
    let stats ← statsToJson Category.legend i.stats
    let children ← toJsons cs
    return .object [
      ("path", .string i.path),
      ("is_leaf", .bool cs.isEmpty),
      ("is_file", .bool i.isFile),
      ("is_collapsed", .bool i.isCollapsed),
      ("line_count", .int i.lineCount),
      ("category_stats", .array stats),
      ("children", .array children)]

/-- Several trees as nested objects. -/
def toJsons : List Tree → Except ExportError (List Value)
  | [] => .ok []
  | t :: ts => do return (← toJson t) :: (← toJsons ts)

end

/-- The document of a tree: legend and root. -/
def exportText (t : Tree) : Except ExportError String := do
  let root ← t.toJson
  return write 2 (.object [("legend", .ofStrings Category.legend), ("root", root)])

end Tree

end SourceCensus
