import SourceCensus.Classification
import SourceCensus.Number.Integer
import SourceCensus.Log.Entry
import SourceCensus.Tree.Basic
import SourceCensus.Tree.Survey
import SourceCensus.Workers

/-! # Building a statistics tree

    Every file of a survey is read and analysed into a leaf, by one worker or by several.
    Then the folders are put together from below: a folder carries the merged lines and
    statistics of what is in it, and nothing but zeros when it is empty.

    A build fails when the folder cannot be listed, when a file cannot be read, or when a
    statistic is out of range. The files are all read before any folder is put together, and of
    several files that cannot be read the first one in the order of the survey is reported.
-/

namespace SourceCensus

/-- Why a tree cannot be built, when reading a file fails with an `ε`. -/
inductive BuildError (ε : Type) where
  /-- The folder cannot be listed. -/
  | folder (e : FileError)
  /-- A file cannot be read. -/
  | read (e : ε)
  /-- A statistic cannot be computed. -/
  | stats (e : StatsError)

namespace Tree

variable {ε : Type}

/-! ## Files -/

/-- The leaf for a file with a given text. -/
def ofText (path : String) (t : Text) : Except StatsError Tree :=
  (aggregate (tokenize t)).map fun stats =>
    .node { path, isFile := true, lineCount := t.normalizeNewlines.countLines, stats } []

/-- The leaf for a file. -/
def ofFile (read : String → Except ε Text) (path : String) : Except (BuildError ε) Tree :=
  match read path with
  | .error e => .error (.read e)
  | .ok t =>
    match ofText path t with
    | .error e => .error (.stats e)
    | .ok leaf => .ok leaf

/-! ## Folders -/

/-- A folder with attached children: it carries what they carry together. -/
def ofChildren (path : String) (children : List Tree) : Except StatsError Tree :=
  let attached := children.map fun c => c.withInfo { c.info with linked := true }
  if children.isEmpty then .ok (.node { path, lineCount := 0, stats := emptyStats } [])
  else
    (mergeStats (children.map fun c => (c.info.lineCount, c.info.stats))).map
      fun (lineCount, stats) => .node { path, lineCount, stats } attached

/-- The leaf of a file among the leaves that were made. -/
def leafFor (leaves : List (String × Tree)) (path : String) : Tree :=
  (leaves.lookup path).getD (.node { path, isFile := true } [])

mutual

/-- The tree of a survey, from the leaves of its files. -/
def assemble (leaves : List (String × Tree)) : Survey → Except StatsError Tree
  | .file path => .ok (leafFor leaves path)
  | .folder path items =>
    match assembleAll leaves items with
    | .error e => .error e
    | .ok children => ofChildren path children

/-- The trees of several surveys. -/
def assembleAll (leaves : List (String × Tree)) : List Survey → Except StatsError (List Tree)
  | [] => .ok []
  | s :: rest =>
    match assemble leaves s with
    | .error e => .error e
    | .ok t => (assembleAll leaves rest).map (t :: ·)

end

/-- The tree of a survey: first all leaves, then the folders. -/
def ofSurvey (read : String → Except ε Text) (workers : Int) (finish : List Nat)
    (survey : Survey) : Except (BuildError ε) Tree :=
  match Workers.results workers finish (ofFile read) survey.files with
  | .error e => .error e
  | .ok leaves =>
    match assemble (survey.files.zip leaves) survey with
    | .error e => .error (.stats e)
    | .ok t => .ok t

/-! ## A whole folder -/

/-- The report on a tree that was built. -/
def buildReport (root : String) (survey : Survey) (t : Tree) : LogEntry :=
  ⟨.info, "Built tree for " ++ root ++ ": " ++ toString survey.files.length ++ " files, "
    ++ Number.integerText t.info.lineCount ++ " lines"⟩

/-- The tree of the folder at a path, with a report. The path of a file gives the leaf of that
    file, without a report and whether or not the file would be taken. -/
def build (fs : FileStore) (read : String → Except ε Text) (chooser : Survey.Chooser)
    (workers : Int) (root : String) : Except (BuildError ε) (Tree × List LogEntry) :=
  if fs.isFile root then
    match ofFile read root with
    | .error e => .error e
    | .ok leaf => .ok (leaf, [])
  else
    match fs.list root with
    | .error e => .error (.folder e)
    | .ok entries =>
      let survey := Survey.ofFolder chooser root entries
      match ofSurvey read workers (List.range survey.files.length) survey with
      | .error e => .error e
      | .ok t => .ok (t, [buildReport root survey t])

end Tree

end SourceCensus
