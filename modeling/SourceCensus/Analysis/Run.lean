import SourceCensus.Analysis.Outcome
import SourceCensus.Config.Check
import SourceCensus.Selection
import SourceCensus.Session
import SourceCensus.Tree.Build
import SourceCensus.Tree.Collapse
import SourceCensus.Tree.Export

/-! # An analysis from start to end

    An analysis checks its configuration, makes the rules of selection, builds the tree of the
    input folder, collapses it, and writes it to a file when one is asked for. What goes wrong
    with files is put into the log and makes a failed outcome. Other errors are no outcome:
    they end the analysis.

    ## Parts

    `measure` is the part that counts: it builds and collapses, and depends on the files alone.
    The way in which a tree is built is a parameter, `Builder`.
-/

namespace SourceCensus.Analysis

open Json (Value Members)
open Session (Work)

/-! ## Errors -/

/-- What ends an analysis without an outcome. -/
inductive Abort where
  /-- The configuration has a fault that a lenient check does not pass over. -/
  | config (fault : Config.Fault)
  /-- A pattern has an error that is no matter of its syntax. -/
  | pattern (e : Pattern.PatternError)
  /-- A path was not handed to the system. -/
  | file (e : FileError)
  /-- A statistic is out of range. -/
  | stats (e : StatsError)
  /-- The tree cannot be written as JSON. -/
  | unwritable (e : ExportError)

/-- What goes wrong while a tree is built and collapsed. -/
inductive Trouble where
  /-- The failure makes a failed outcome with this text. -/
  | reported (text : String)
  /-- The failure ends the analysis. -/
  | fatal (e : Abort)

/-- A failed operation on a file: what the system reports is put into the outcome. -/
def Trouble.ofFile (e : FileError) : Trouble :=
  if e.fromSystem then .reported e.message else .fatal (.file e)

/-- A failure to build a tree from files. -/
def Trouble.ofBuild : BuildError FileError → Trouble
  | .folder e => ofFile e
  | .read e => ofFile e
  | .stats e => .fatal (.stats e)

/-- A failure to merge nodes. -/
def Trouble.ofMerge : MergeError → Trouble
  | .stats e => .fatal (.stats e)
  | e => .reported e.message

/-! ## Building and collapsing -/

/-- A way to build the tree of a folder, for a selection and a number of workers. -/
abbrev Builder := FileStore → Selection → Int → String → Except Trouble (Tree × List LogEntry)

/-- The selection as it decides about paths. -/
def chooserOf (s : Selection) : Survey.Chooser := ⟨s.takesFile, s.entersFolder⟩

/-- Builds a tree from the texts of the files. -/
def buildFromFiles : Builder := fun fs selection workers root =>
  match Tree.build fs fs.readText (chooserOf selection) workers root with
  | .ok built => .ok built
  | .error e => .error (.ofBuild e)

/-- A collapsed tree with what was counted and logged on the way. -/
structure Measured where
  /-- The tree that is left. -/
  tree : Tree
  /-- What was counted. -/
  summary : Summary
  /-- Entries made. -/
  log : List LogEntry

/-- A failure with the entries made before it. -/
structure Stopped where
  /-- What went wrong. -/
  trouble : Trouble
  /-- Entries made. -/
  log : List LogEntry

/-- The number of nodes of a tree that stand for one file each. -/
def countFiles (t : Tree) : Nat := (t.walk.filter (·.info.isFile)).length

/-- Builds the tree of a folder, collapses it, and counts. -/
def measure (build : Builder) (fs : FileStore) (settings : Settings) (selection : Selection)
    (root : String) : Except Stopped Measured :=
  match build fs selection settings.maxWorkers root with
  | .error trouble => .error ⟨trouble, []⟩
  | .ok (tree, buildLog) =>
    match tree.collapse settings.maxNodeCount with
    | .error e => .error ⟨.reported e.message, buildLog⟩
    | .ok collapsed =>
      let log := buildLog ++ collapsed.log
      match collapsed.failure with
      | some e => .error ⟨.ofMerge e, log⟩
      | none =>
        let summary : Summary :=
          { filesAnalyzed := countFiles tree
            totalLines := collapsed.tree.info.lineCount
            nodesBefore := tree.countNodes
            nodesAfter := collapsed.tree.countNodes }
        .ok ⟨collapsed.tree, summary, log⟩

/-! ## Steps -/

/-- A step of an analysis, which may end it. -/
abbrev Step := ExceptT Abort Work

/-- Puts entries into the log. -/
def record (entries : List LogEntry) : Step Unit := ExceptT.lift (Session.record entries)

/-- Puts one entry into the log. -/
def note (severity : Severity) (message : String) : Step Unit := record [⟨severity, message⟩]

/-- Ends the analysis when a value cannot be had. -/
def orAbort {ε α : Type} (abort : ε → Abort) : Except ε α → Step α
  | .ok a => pure a
  | .error e => throw (abort e)

/-- Checks the configuration and puts all remarks into the log. -/
def checkConfig (config : Value) : Step Config := do
  let currentFolder := (← get).environment.currentFolder
  let checked ← orAbort .config (Config.check false currentFolder config)
  record checked.log
  record (checked.remarks.map fun r => ⟨.warning, "Configuration Warning: " ++ r.message⟩)
  return checked.config

/-- Makes the rules of selection for a folder. -/
def makeSelection (settings : Settings) (root : String) : Step Selection := do
  let fs := (← get).files
  let f := (← get).environment.patterns
  let (globs, ignoreLog) ←
    if settings.respectIgnoreFile then orAbort .file (fs.ignoreRules root) else pure ([], [])
  record ignoreLog
  let (included, includeLog) ← orAbort .pattern (NameRule.ofSources f settings.includePatterns)
  record includeLog
  let (excluded, excludeLog) ← orAbort .pattern (NameRule.ofSources f settings.excludePatterns)
  record excludeLog
  return ⟨settings.extensions, included, excluded ++ globs.map .glob⟩

/-- Writes a tree to a file. -/
def writeTree (tree : Tree) (path : String) : Step (Except FileError Unit) := do
  let text ← orAbort .unwritable tree.exportText
  match ← ExceptT.lift (Session.change fun fs => fs.writeText path text.toList) with
  | .ok () =>
    note .info ("Tree exported to " ++ path)
    return .ok ()
  | .error e => if e.fromSystem then return .error e else throw (.file e)

/-- The file to which the tree is to be written: the one asked for, or else that of the
    configuration. None is the empty text. -/
def outputPathOf (savePath : Option String) (settings : Settings) : String :=
  match savePath with
  | some p => if p.isEmpty then settings.outputPath else p
  | none => settings.outputPath

/-- A failed outcome, of which the log is told. -/
def fail (text root : String) (settings : Settings) (summary : Members) : Step Outcome := do
  note .error text
  return .failed text root settings.maxNodeCount summary

/-- Writes the tree, if that is asked for, and closes the analysis. -/
def finish (m : Measured) (root : String) (settings : Settings) (outputPath : String) :
    Step Outcome := do
  let summary := m.summary.toMembers
  let written ← if outputPath.isEmpty then pure (.ok ()) else writeTree m.tree outputPath
  match written with
  | .error e =>
    fail ("Failed to export tree to '" ++ outputPath ++ "': " ++ e.message) root settings summary
  | .ok () =>
    note .info ("Analysis finished: " ++ toString m.summary.filesAnalyzed ++ " files, "
      ++ toString m.summary.nodesBefore ++ " -> " ++ toString m.summary.nodesAfter ++ " nodes")
    return .succeeded m.tree root settings.maxNodeCount outputPath summary

/-! ## The whole analysis -/

/-- Runs an analysis with a configuration and, it may be, a file to write to. -/
def run (build : Builder) (config : Value) (savePath : Option String) : Step Outcome := do
  note .info "Analysis started."
  let config ← checkConfig config
  let settings := config.settings
  let environment := (← get).environment
  let root := Path.resolve environment settings.inputPath environment.currentFolder
  if !(← get).files.isFolder root then
    fail ("Invalid input directory: " ++ root) root settings []
  else
    let selection ← makeSelection settings root
    match measure build (← get).files settings selection root with
    | .error stopped =>
      record stopped.log
      match stopped.trouble with
      | .reported text => fail ("Analysis failed: " ++ text) root settings []
      | .fatal e => throw e
    | .ok m =>
      record m.log
      finish m root settings (outputPathOf savePath settings)

end SourceCensus.Analysis
