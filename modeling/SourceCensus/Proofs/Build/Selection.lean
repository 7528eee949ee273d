import SourceCensus.Proofs.Build.Assembly

/-! # The tree of a folder

    The tree that is built of a folder holds what is selected in it, once and in order, and every
    node carries what it stands for (`IsCensus`). Such a tree is built for every way to select and
    every reader that reads all files, by any number of workers (`build_is_census`); it fails
    only where a number of lines or tokens has no double.
-/

namespace SourceCensus.Tree

open Survey (Chooser Selected)

variable {t n : Tree} {chooser : Chooser} {text : String → Text} {root p : String}
  {entries : List (String × Entry)} {fs : FileStore} {workers : Int} {log : List LogEntry}
  {ε : Type}

/-! ## Paths in a tree -/

/-- The paths of the nodes that stand for files, in pre-order. -/
def filePaths (t : Tree) : List String :=
  (t.preorder.filter fun n => n.info.isFile).map fun n => n.info.path

/-- The paths of the nodes that stand for folders, in pre-order. -/
def folderPaths (t : Tree) : List String :=
  (t.preorder.filter fun n => !n.info.isFile).map fun n => n.info.path

theorem filePaths_eq (t : Tree) :
    t.filePaths = (t.outline.filter (·.isFile)).map (·.path) := by
  unfold filePaths outline
  rw [List.filter_map, List.map_map]
  rfl

theorem mem_filePaths : p ∈ t.filePaths ↔ ∃ m ∈ t.outline, m.isFile = true ∧ m.path = p := by
  rw [filePaths_eq]
  simp only [List.mem_map, List.mem_filter, and_assoc]

theorem mem_folderPaths : p ∈ t.folderPaths ↔ ∃ m ∈ t.outline, m.isFile = false ∧ m.path = p := by
  unfold folderPaths outline
  simp [mark, and_assoc]

/-! ## The census of a folder -/

/-- The tree of a folder `root` with certain entries: what a chooser selects there, with the lines
    and statistics of the files' texts. -/
structure IsCensus (chooser : Chooser) (text : String → Text) (root : String)
    (entries : List (String × Entry)) (t : Tree) : Prop where
  /-- The top stands for the folder. -/
  top : t.info.path = root ∧ t.info.isFile = false
  /-- The files of the tree are the selected files. -/
  files : ∀ p, p ∈ t.filePaths ↔
    ∃ x, Selected chooser root (.folder entries) p x ∧ x.isFile = true
  /-- The folders of the tree are the selected folders. -/
  folders : ∀ p, p ∈ t.folderPaths ↔
    ∃ x, Selected chooser root (.folder entries) p x ∧ x.isFile = false
  /-- No path comes twice. -/
  distinct : (t.preorder.map fun n => n.info.path).Nodup
  /-- What is in a folder comes in ascending order of the names. -/
  ascending : ∀ n ∈ t.preorder, n.info.isFile = false →
    ∃ names : List String, (∀ name ∈ names, Path.isName name = true) ∧ names.Pairwise (· < ·) ∧
      (n.children.map fun c => c.info.path) = names.map (Path.join n.info.path)
  /-- Every file carries what its text comes to, and every folder what is in it comes to. -/
  faithful : ∀ n ∈ t.preorder, Faithful text n
  /-- The top carries the totals over the files. -/
  totals : ∀ m : Measure, t.info.amount m = m.inFiles text t.filePaths

/-- The tree of the survey of a folder is its census. -/
theorem isCensus_of_assembled (hnamed : (Entry.folder entries).wellNamed = true)
    (h : Assembled text (Survey.ofFolder chooser root entries) t) :
    IsCensus chooser text root entries t := by
  have houtline : t.outline = (Survey.ofEntry chooser root (.folder entries)).outline :=
    h.outline_eq
  -- each node is shown by its mark in the outline of the survey
  have hmark : ∀ n ∈ t.preorder,
      n.mark ∈ (Survey.ofEntry chooser root (.folder entries)).outline := by
    intro n hn
    rw [← houtline]
    exact List.mem_map_of_mem hn
  refine ⟨⟨h.path_eq, ?_⟩, ?_, ?_, ?_, ?_, h.faithful, ?_⟩
  · -- the folder comes first in both outlines
    have hfirst := houtline
    rw [outline_eq, Survey.ofEntry, Survey.ofFolder_eq, Survey.outline] at hfirst
    exact congrArg Survey.Mark.isFile (List.cons.inj hfirst).1
  · intro p
    rw [mem_filePaths, houtline, Survey.mem_outline_iff]
  · intro p
    rw [mem_folderPaths, houtline, Survey.mem_outline_iff]
  · -- a path in the outline comes once, as the names in a folder differ
    have hnodup : ((Survey.ofEntry chooser root (.folder entries)).outline.map (·.path)).Nodup :=
      Survey.nodup_paths hnamed
    rw [← houtline, outline, List.map_map] at hnodup
    exact hnodup
  · intro n hn hfolder
    exact Survey.ascending_inside hnamed (hmark n hn) hfolder
  · intro m
    rw [h.amount_eq, filePaths_eq, h.outline_eq, Survey.files_eq]

/-! ## Building -/

/-- What can be listed is no file, so the build goes on to list it. -/
theorem isFile_eq_false_of_list (hlist : fs.list root = .ok entries) : fs.isFile root = false := by
  unfold FileStore.list at hlist
  unfold FileStore.isFile
  split at hlist <;> simp_all

/-- **A folder that can be listed** is built from its survey. Neither the number of the workers nor
    the order in which they finish matters. -/
theorem build_eq {read : String → Except ε Text} (hlist : fs.list root = .ok entries)
    (others : Int) (finish : List Nat) :
    Tree.build fs read chooser workers root =
      (ofSurvey read others finish (Survey.ofFolder chooser root entries)).map fun t =>
        (t, [buildReport root (Survey.ofFolder chooser root entries) t]) := by
  rw [ofSurvey_eq_ofSurvey others workers finish
    (List.range (Survey.ofFolder chooser root entries).files.length)]
  unfold build
  rw [isFile_eq_false_of_list hlist, if_neg Bool.false_ne_true, hlist]
  dsimp only
  cases ofSurvey read workers (List.range (Survey.ofFolder chooser root entries).files.length)
    (Survey.ofFolder chooser root entries) with
  | error e => rfl
  | ok t => rfl

/-- The tree of a folder is that of its survey. -/
theorem build_eq_ok_iff {read : String → Except ε Text} (hlist : fs.list root = .ok entries) :
    Tree.build fs read chooser workers root = .ok (t, log) ↔
      ofSurvey read workers (List.range (Survey.ofFolder chooser root entries).files.length)
          (Survey.ofFolder chooser root entries) = .ok t ∧
        log = [buildReport root (Survey.ofFolder chooser root entries) t] := by
  rw [build_eq hlist workers (List.range (Survey.ofFolder chooser root entries).files.length)]
  constructor
  · intro h
    obtain ⟨u, hu, heq⟩ := map_eq_ok h
    obtain ⟨rfl, rfl⟩ := Prod.mk.inj heq
    exact ⟨hu, rfl⟩
  · intro h
    obtain ⟨ht, rfl⟩ := h
    rw [ht]
    rfl

/-- **A build takes the census of a folder,** for every way to select, every text of a file and
    any number of workers. There is a tree whenever the selected files together have less than two
    to the power of 1000 lines and none has so many tokens. -/
theorem build_is_census (hlist : fs.list root = .ok entries)
    (hnamed : (Entry.folder entries).wellNamed = true) :
    (∀ t log, Tree.build fs (fun p => (.ok (text p) : Except ε Text)) chooser workers root =
      .ok (t, log) → IsCensus chooser text root entries t) ∧
    (Measure.lines.inFiles text (Survey.ofFolder chooser root entries).files <
        Number.twoTo 1000 →
      (∀ p ∈ (Survey.ofFolder chooser root entries).files,
        (tokenize (text p)).length < Number.twoTo 1000) →
      ∃ t log, Tree.build fs (fun p => (.ok (text p) : Except ε Text)) chooser workers root =
        .ok (t, log)) := by
  constructor
  · intro t log h
    obtain ⟨hsurvey, -⟩ := (build_eq_ok_iff hlist).1 h
    exact isCensus_of_assembled hnamed (assembled_ofSurvey (fun p _ => rfl) hsurvey)
  · intro hlight htokens
    obtain ⟨t, ht⟩ := ofSurvey_succeeds (fun p _ => rfl) hlight htokens
    exact ⟨t, _, (build_eq_ok_iff hlist).2 ⟨ht, rfl⟩⟩

/-- Files and folders out of order, some of which are passed over, and a folder with nothing in
    it. -/
def sampleEntries : List (String × Entry) :=
  [("b.cs", .file []),
   ("out", .folder [("c.cs", .file [])]),
   ("a", .folder [("z.cs", .file []), ("notes", .file []), ("e", .folder [])]),
   ("B.cs", .file [])]

/-- A store that holds the sample as a folder `p`. -/
def sampleStore : FileStore := { root := .folder [("p", .folder sampleEntries)], current := [] }

/-- Passes over the notes and the folder `out`. -/
def sampleChooser : Chooser :=
  { takesFile := fun p => p ≠ "p/a/notes", entersFolder := fun p => p ≠ "p/out" }

/-- The same text for every file. -/
def sampleText (_ : String) : Text := "a = 1; // c\n\nreturn a;".toList

theorem list_sampleStore : sampleStore.list "p" = .ok sampleEntries := by
  unfold FileStore.list FileStore.entry FileStore.locate
  -- the only test that does not evaluate is the one for a null character
  simp only [String.contains_char_eq]
  with_unfolding_all rfl

theorem files_sampleEntries :
    (Survey.ofFolder sampleChooser "p" sampleEntries).files = ["p/B.cs", "p/a/z.cs", "p/b.cs"] := by
  have htakes : sampleChooser.takesFile (Path.join "p" "b.cs") = true ∧
      sampleChooser.entersFolder (Path.join "p" "out") = false ∧
      sampleChooser.entersFolder (Path.join "p" "a") = true ∧
      sampleChooser.takesFile (Path.join (Path.join "p" "a") "z.cs") = true ∧
      sampleChooser.takesFile (Path.join (Path.join "p" "a") "notes") = false ∧
      sampleChooser.entersFolder (Path.join (Path.join "p" "a") "e") = true ∧
      sampleChooser.takesFile (Path.join "p" "B.cs") = true := by decide +kernel
  have hpaths : Path.join "p" "b.cs" = "p/b.cs" ∧ Path.join "p" "B.cs" = "p/B.cs" ∧
      Path.join (Path.join "p" "a") "z.cs" = "p/a/z.cs" := by decide +kernel
  unfold Survey.ofFolder sampleEntries
  simp only [Survey.ofEntries, htakes, if_true, if_false, Bool.false_eq_true]
  -- the names come in descending order in both folders
  rw [Survey.sorted_eq_of_perm (List.reverse_perm _).symm (by decide),
    Survey.sorted_eq_of_perm (List.reverse_perm _).symm (by decide),
    Survey.sorted_eq_of_perm (List.Perm.refl []) List.Pairwise.nil]
  simp only [List.reverse_cons, List.reverse_nil, List.nil_append, List.cons_append, List.map,
    Survey.files, Survey.filesOf, List.append_nil, hpaths]

theorem build_is_census_sampleStore :
    sampleStore.list "p" = .ok sampleEntries ∧ (Entry.folder sampleEntries).wellNamed = true ∧
    (Survey.ofFolder sampleChooser "p" sampleEntries).files = ["p/B.cs", "p/a/z.cs", "p/b.cs"] ∧
    ∃ t log,
      Tree.build sampleStore (fun p => (.ok (sampleText p) : Except FileError Text))
        sampleChooser 4 "p" = .ok (t, log) ∧
      IsCensus sampleChooser sampleText "p" sampleEntries t := by
  have hnamed : (Entry.folder sampleEntries).wellNamed = true := by decide +kernel
  have hlight : Measure.lines.inFiles sampleText ["p/B.cs", "p/a/z.cs", "p/b.cs"] <
      Number.twoTo 1000 := by decide +kernel
  -- all files have the same text
  have htokens : (tokenize (sampleText "")).length < Number.twoTo 1000 := by decide +kernel
  rw [← files_sampleEntries] at hlight
  obtain ⟨hcensus, hsucceeds⟩ := build_is_census list_sampleStore hnamed
  obtain ⟨t, log, hbuild⟩ := hsucceeds hlight fun _ _ => htokens
  exact ⟨list_sampleStore, hnamed, files_sampleEntries, t, log, hbuild, hcensus t log hbuild⟩

end SourceCensus.Tree
