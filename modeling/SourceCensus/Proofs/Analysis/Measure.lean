import SourceCensus.Analysis.Run
import SourceCensus.Proofs.Build.Collapsing
import SourceCensus.Proofs.Build.Selection
import SourceCensus.Proofs.FileStore.Paths

/-! # What is measured

    The files and folders that are selected below a folder can be listed, each once (`Gathered`).
    The tree that is built has a node for each of them and for the folder itself, and the lines of
    all files together (`gathered_of_ofSurvey`).

    `measure` counts this tree before it is collapsed, and the tree that is left after it
    (`measure_eq_ok`). The tree is that of the survey whatever the number of workers is, and
    collapsing keeps the lines of the top, so nothing that is counted before depends on the budget.
-/

namespace SourceCensus.Analysis

open Survey (Selected)
open Text (Bytes)
open SourceCensus.Tree

variable {fs : FileStore} {selection : Selection} {root p : String} {t : Tree}
  {entries : List (String × Entry)} {files : List (String × Bytes)} {folders : List String}
  {settings : Settings} {m : Measured}

/-! ## The files and the folders -/

/-- The lines of files together. -/
def linesOf (files : List (String × Bytes)) : Int :=
  (files.map fun file => ((Text.decode file.2).normalizeNewlines.countLines : Int)).foldr (· + ·) 0

/-- The files that are taken below a folder, each with its content, and the folders that are
    entered. -/
structure Gathered (fs : FileStore) (selection : Selection) (root : String)
    (entries : List (String × Entry)) (files : List (String × Bytes)) (folders : List String) :
    Prop where
  /-- The files that are taken are listed, and no others. -/
  mem_files : ∀ p content, (p, content) ∈ files ↔
    Selected (chooserOf selection) root (.folder entries) p (.file content)
  /-- No path of a file is listed twice. -/
  files_distinct : (files.map (·.1)).Nodup
  /-- What is read under the path of a file is its content. -/
  read : ∀ file ∈ files, fs.read file.1 = .ok file.2
  /-- The folders that are entered are listed, without the one that it started from. -/
  mem_folders : ∀ p, p ∈ folders ↔
    p ≠ root ∧ ∃ inside, Selected (chooserOf selection) root (.folder entries) p (.folder inside)
  /-- No folder is listed twice. -/
  folders_distinct : folders.Nodup

/-- What is read under a path, and nothing where nothing can be read. -/
def contentAt (fs : FileStore) (p : String) : Bytes := (fs.read p).toOption.getD []

/-- What is selected is read under its path. -/
theorem read_of_selected (hlist : fs.list root = .ok entries)
    (hproper : (Entry.folder entries).isProper = true) {content : Bytes}
    (hsel : Selected (chooserOf selection) root (.folder entries) p (.file content)) :
    fs.read p = .ok content :=
  FileStore.read_eq_ok_iff.2 <|
    FileStore.entry_of_selected hsel hproper (FileStore.list_eq_ok_iff.1 hlist)

/-- The files of a survey can be read. -/
theorem readText_of_mem_files (hlist : fs.list root = .ok entries)
    (hproper : (Entry.folder entries).isProper = true)
    (hp : p ∈ (Survey.ofFolder (chooserOf selection) root entries).files) :
    fs.readText p = .ok (Text.decode (contentAt fs p)) := by
  rw [Survey.files_eq, List.mem_map] at hp
  obtain ⟨m, hm, rfl⟩ := hp
  rw [List.mem_filter] at hm
  obtain ⟨x, hsel, hfile⟩ := (Survey.mem_outline_iff (e := .folder entries)).1 ⟨m, hm.1, hm.2, rfl⟩
  cases x with
  | folder inside => cases hfile
  | file content =>
    have hread := read_of_selected hlist hproper hsel
    unfold FileStore.readText contentAt
    rw [hread]
    rfl

/-- Every node stands for a file or for a folder. -/
theorem length_paths (t : Tree) : t.filePaths.length + t.folderPaths.length = t.countNodes := by
  unfold filePaths folderPaths
  rw [countNodes_eq_size, ← length_preorder, List.length_map, List.length_map]
  exact (List.length_eq_length_filter_add _).symm

theorem countFiles_eq (t : Tree) : countFiles t = t.filePaths.length := by
  unfold countFiles filePaths
  rw [walk_eq_preorder, List.length_map]

/-- The files of a tree, each with its content. -/
def listedFiles (fs : FileStore) (t : Tree) : List (String × Bytes) :=
  t.filePaths.map fun p => (p, contentAt fs p)

theorem contentAt_of_selected (hlist : fs.list root = .ok entries)
    (hproper : (Entry.folder entries).isProper = true) {content : Bytes}
    (hsel : Selected (chooserOf selection) root (.folder entries) p (.file content)) :
    contentAt fs p = content := by
  rw [contentAt, read_of_selected hlist hproper hsel]
  rfl

variable {text : String → Text}

/-- A file of the tree is selected, with the content that is read. -/
theorem selected_of_mem_filePaths (hlist : fs.list root = .ok entries)
    (hproper : (Entry.folder entries).isProper = true)
    (hcensus : IsCensus (chooserOf selection) text root entries t) (hp : p ∈ t.filePaths) :
    Selected (chooserOf selection) root (.folder entries) p (.file (contentAt fs p)) := by
  obtain ⟨x, hsel, hisFile⟩ := (hcensus.files p).1 hp
  cases x with
  | folder inside => cases hisFile
  | file content => rwa [contentAt_of_selected hlist hproper hsel]

theorem mem_listedFiles (hlist : fs.list root = .ok entries)
    (hproper : (Entry.folder entries).isProper = true)
    (hcensus : IsCensus (chooserOf selection) text root entries t) (p : String) (content : Bytes) :
    (p, content) ∈ listedFiles fs t ↔
      Selected (chooserOf selection) root (.folder entries) p (.file content) := by
  rw [listedFiles, List.mem_map]
  constructor
  · intro hmem
    obtain ⟨q, hq, heq⟩ := hmem
    obtain ⟨rfl, rfl⟩ := Prod.mk.inj heq
    exact selected_of_mem_filePaths hlist hproper hcensus hq
  · intro hsel
    exact ⟨p, (hcensus.files p).2 ⟨_, hsel, rfl⟩, by rw [contentAt_of_selected hlist hproper hsel]⟩

theorem mem_folderPaths_iff (hcensus : IsCensus (chooserOf selection) text root entries t)
    (p : String) : p ∈ t.folderPaths ↔
      ∃ inside, Selected (chooserOf selection) root (.folder entries) p (.folder inside) := by
  rw [hcensus.folders]
  constructor
  · intro h
    obtain ⟨x, hsel, hisFile⟩ := h
    cases x with
    | file content => cases hisFile
    | folder inside => exact ⟨inside, hsel⟩
  · intro h
    obtain ⟨inside, hsel⟩ := h
    exact ⟨_, hsel, rfl⟩

/-- The files of a census, and its folders without the one at the top, are what is gathered. -/
theorem gathered_of_isCensus (hlist : fs.list root = .ok entries)
    (hproper : (Entry.folder entries).isProper = true)
    (hcensus : IsCensus (chooserOf selection) text root entries t) :
    Gathered fs selection root entries (listedFiles fs t) (t.folderPaths.erase root) := by
  have hfiles : t.filePaths.Nodup := hcensus.distinct.sublist (List.filter_sublist.map _)
  have hfolders : t.folderPaths.Nodup := hcensus.distinct.sublist (List.filter_sublist.map _)
  refine ⟨mem_listedFiles hlist hproper hcensus, ?_, ?_, ?_, hfolders.erase root⟩
  · rw [listedFiles, List.map_map]
    exact (List.map_id t.filePaths).symm ▸ hfiles
  · intro file hmem
    exact read_of_selected hlist hproper ((mem_listedFiles hlist hproper hcensus _ _).1 hmem)
  · intro p
    rw [hfolders.mem_erase_iff, mem_folderPaths_iff hcensus]

/-- **What the tree of a survey counts.** It has a node for every file that is taken and for every
    folder that is entered, one for the folder at the top, and the lines of all files. -/
theorem gathered_of_ofSurvey {workers : Int} {finish : List Nat}
    (hlist : fs.list root = .ok entries) (hproper : (Entry.folder entries).isProper = true)
    (h : ofSurvey fs.readText workers finish (Survey.ofFolder (chooserOf selection) root entries) =
      .ok t) :
    ∃ files folders, Gathered fs selection root entries files folders ∧
      countFiles t = files.length ∧ t.countNodes = 1 + files.length + folders.length ∧
      t.info.lineCount = linesOf files := by
  -- files with text are read as they are stored, so the census is taken of the stored files
  have hassembled : Assembled (fun p => Text.decode (contentAt fs p)) _ t :=
    assembled_ofSurvey (fun p hp => readText_of_mem_files hlist hproper hp) h
  have hcensus := isCensus_of_assembled (Entry.isProper_iff.1 hproper).1 hassembled
  have hroot : root ∈ t.folderPaths := (hcensus.folders root).2 ⟨_, .self root _, rfl⟩
  refine ⟨_, _, gathered_of_isCensus hlist hproper hcensus, ?_, ?_, ?_⟩
  · rw [countFiles_eq, listedFiles, List.length_map]
  · -- the folder at the top is one of the folders of the tree
    have hlength := length_paths t
    have hpos := List.length_pos_of_mem hroot
    rw [listedFiles, List.length_map, List.length_erase_of_mem hroot]
    omega
  · have hlines : t.info.lineCount =
        Measure.lines.inFiles (fun p => Text.decode (contentAt fs p)) t.filePaths :=
      hcensus.totals .lines
    rw [hlines, linesOf, listedFiles, List.map_map]
    rfl

/-! ## Measuring -/

/-- What was counted of a tree that was built and collapsed. -/
structure Counts (t : Tree) (budget : Int) (m : Measured) : Prop where
  filesAnalyzed : m.summary.filesAnalyzed = countFiles t
  totalLines : m.summary.totalLines = t.info.lineCount
  nodesBefore : m.summary.nodesBefore = t.countNodes
  nodesAfter : m.summary.nodesAfter = m.tree.countNodes
  /-- The tree that is left meets the budget. -/
  within : (m.tree.countNodes : Int) ≤ budget
  /-- Nothing is added to the tree. -/
  fewer : m.tree.countNodes ≤ t.countNodes
  /-- The top keeps its lines. -/
  lines : m.tree.info.lineCount = t.info.lineCount

/-- **A tree that can be built can be measured:** it is always brought within the budget. -/
theorem measure_of_ofSurvey (hlist : fs.list root = .ok entries) (hb : 1 ≤ settings.maxNodeCount)
    (h : ofSurvey fs.readText settings.maxWorkers
      (List.range (Survey.ofFolder (chooserOf selection) root entries).files.length)
      (Survey.ofFolder (chooserOf selection) root entries) = .ok t) :
    ∃ m, measure buildFromFiles fs settings selection root = .ok m ∧
      Counts t settings.maxNodeCount m := by
  obtain ⟨hsum, hl⟩ := ofSurvey_sound h
  obtain ⟨r, hr, hfailure, hwithin, hfewer, hlines⟩ := collapse_of_sound hsum hl hb
  have hbuild := (build_eq_ok_iff hlist).2 ⟨h, rfl⟩
  unfold measure buildFromFiles
  rw [hbuild]
  dsimp only
  rw [hr]
  dsimp only
  rw [hfailure]
  exact ⟨_, rfl, rfl, hlines, rfl, rfl, hwithin, hfewer, hlines⟩

/-- **What a measure that succeeds gives:** the tree of the survey, collapsed and counted. -/
theorem measure_eq_ok (hlist : fs.list root = .ok entries) (hb : 1 ≤ settings.maxNodeCount)
    (h : measure buildFromFiles fs settings selection root = .ok m) :
    ∃ t finish, ofSurvey fs.readText settings.maxWorkers finish
        (Survey.ofFolder (chooserOf selection) root entries) = .ok t ∧
      Counts t settings.maxNodeCount m := by
  cases hbuild : Tree.build fs fs.readText (chooserOf selection) settings.maxWorkers root with
  | error e =>
    unfold measure buildFromFiles at h
    rw [hbuild] at h
    cases h
  | ok built =>
    obtain ⟨t, log⟩ := built
    obtain ⟨hsurvey, -⟩ := (build_eq_ok_iff hlist).1 hbuild
    obtain ⟨m', hm, hcounts⟩ := measure_of_ofSurvey hlist hb hsurvey
    rw [h, Except.ok.injEq] at hm
    exact ⟨t, _, hsurvey, hm ▸ hcounts⟩

/-- The tree of a survey does not depend on who makes the leaves. -/
theorem eq_of_ofSurvey {workers workers' : Int} {finish finish' : List Nat} {s : Survey} {t' : Tree}
    (h : ofSurvey fs.readText workers finish s = .ok t)
    (h' : ofSurvey fs.readText workers' finish' s = .ok t') : t = t' := by
  have hsame : ofSurvey fs.readText workers' finish' s = .ok t :=
    ofSurvey_eq_ok_iff.2 (ofSurvey_eq_ok_iff.1 h)
  rw [h', Except.ok.injEq] at hsame
  exact hsame.symm

end SourceCensus.Analysis
