import SourceCensus.Proofs.Analysis.Measure
import SourceCensus.Proofs.Analysis.Steps
import SourceCensus.Proofs.Config.Counts
import SourceCensus.Proofs.Config.Form

/-! # The summary of an analysis

    An analysis that leads to a tree reports what is true of the folder and of the tree
    (`Truthful`), and the tree is within the number of nodes that was allowed. What it counts
    before collapsing is the same for all configurations that agree besides the counts
    (`summary_is_truthful`).

    The numbers are counted on two trees, the one that was built and the one that is left. They fit
    together because every tree that is built can be brought within its budget, and because
    collapsing keeps the lines of the top.
-/

namespace SourceCensus.Analysis

open Json (Value Members)
open Session (Still)
open Config (AgreeBesides countNames uncounted)

variable {fs : FileStore} {settings settings' : Settings} {selection selection' : Selection}
  {root : String} {entries : List (String × Entry)} {s r : Session} {f : Pattern.Facilities}

/-! ## Truth -/

/-- A tree and a summary are true of the folder `root`, from which a selection was made. -/
structure Truthful (fs : FileStore) (selection : Selection) (root : String)
    (entries : List (String × Entry)) (budget : Int) (tree : Tree) (summary : Summary) : Prop where
  /-- The tree is counted, and has no more nodes than allowed. -/
  nodesAfter : summary.nodesAfter = tree.countNodes ∧ (summary.nodesAfter : Int) ≤ budget
  /-- There were as many nodes before, or more. -/
  nodesBefore : summary.nodesAfter ≤ summary.nodesBefore
  /-- The lines are those of the tree. -/
  lines : summary.totalLines = tree.info.lineCount
  /-- All numbers taken before are those of the files and folders that are selected. -/
  gathered : ∃ files folders, Gathered fs selection root entries files folders ∧
    summary.filesAnalyzed = files.length ∧
    summary.nodesBefore = 1 + files.length + folders.length ∧
    summary.totalLines = linesOf files

/-- A tree that was built, collapsed and counted. -/
theorem truthful_of_counts {t : Tree} {budget : Int} {m : Measured} {workers : Int}
    {finish : List Nat} (hlist : fs.list root = .ok entries)
    (hproper : (Entry.folder entries).isProper = true)
    (hsurvey : Tree.ofSurvey fs.readText workers finish
      (Survey.ofFolder (chooserOf selection) root entries) = .ok t)
    (hcounts : Counts t budget m) :
    Truthful fs selection root entries budget m.tree m.summary := by
  obtain ⟨files, folders, hgathered, hfiles, hnodes, hlines⟩ :=
    gathered_of_ofSurvey hlist hproper hsurvey
  refine ⟨⟨hcounts.nodesAfter, ?_⟩, ?_, ?_, files, folders, hgathered, ?_, ?_, ?_⟩
  · rw [hcounts.nodesAfter]
    exact hcounts.within
  · rw [hcounts.nodesAfter, hcounts.nodesBefore]
    exact hcounts.fewer
  · rw [hcounts.totalLines, hcounts.lines]
  · rw [hcounts.filesAnalyzed, hfiles]
  · rw [hcounts.nodesBefore, hnodes]
  · rw [hcounts.totalLines, hlines]

/-! ## What does not depend on the counts -/

/-- Settings have one selection, which does not depend on the counts. -/
theorem Selects.eq_of_uncounted (hsame : uncounted settings = uncounted settings')
    (h : Selects f fs settings root selection) (h' : Selects f fs settings' root selection') :
    selection = selection' := by
  unfold uncounted at hsame
  simp only [Settings.mk.injEq] at hsame
  obtain ⟨-, hextensions, hinclude, hexclude, hrespects, -, -, -⟩ := hsame
  obtain ⟨log, hincluded⟩ := h.included
  obtain ⟨log', hincluded'⟩ := h'.included
  obtain ⟨patterns, excludeLog, globs, ignoreLog, hpatterns, hglobs, hexcluded⟩ := h.excluded
  obtain ⟨patterns', excludeLog', globs', ignoreLog', hpatterns', hglobs', hexcluded'⟩ :=
    h'.excluded
  -- both make the same patterns and globs, since what they are made of is the same
  rw [hinclude, hincluded', Except.ok.injEq, Prod.mk.injEq] at hincluded
  rw [hexclude, hpatterns', Except.ok.injEq, Prod.mk.injEq] at hpatterns
  rw [hrespects, hglobs', Except.ok.injEq, Prod.mk.injEq] at hglobs
  have hext : selection.extensions = selection'.extensions := by
    rw [h.extensions, h'.extensions, hextensions]
  have hexc : selection.excluded = selection'.excluded := by
    rw [hexcluded, hexcluded', hpatterns.1, hglobs.1]
  cases selection
  cases selection'
  simp only at hext hincluded hexc
  rw [hext, ← hincluded.1, hexc]

/-- The numbers that are counted before collapsing. -/
def countedBefore : List String := ["files_analyzed", "total_lines", "nodes_before_collapse"]

/-- Summaries with the same numbers before collapsing. -/
theorem get?_toMembers_of_mem {a b : Summary} (hfiles : a.filesAnalyzed = b.filesAnalyzed)
    (hlines : a.totalLines = b.totalLines) (hnodes : a.nodesBefore = b.nodesBefore) {key : String}
    (hkey : key ∈ countedBefore) :
    Members.get? a.toMembers key = Members.get? b.toMembers key := by
  unfold countedBefore at hkey
  simp only [List.mem_cons, List.not_mem_nil, or_false] at hkey
  unfold Summary.toMembers
  rw [hfiles, hlines, hnodes]
  rcases hkey with rfl | rfl | rfl <;> rfl

/-! ## The whole analysis -/

/-- What an analysis that leads to a tree looked at and counted. -/
structure Reported (s : Session) (config : Value) (o : Outcome) (checked : Config.Checked)
    (selection : Selection) (entries : List (String × Entry)) (t : Tree) (m : Measured) : Prop where
  check : Config.check false s.environment.currentFolder config = .ok checked
  selects : Selects s.environment.patterns s.files checked.config.settings
    (rootOf s.environment checked.config.settings) selection
  list : s.files.list (rootOf s.environment checked.config.settings) = .ok entries
  survey : ∃ finish, Tree.ofSurvey s.files.readText checked.config.settings.maxWorkers finish
    (Survey.ofFolder (chooserOf selection) (rootOf s.environment checked.config.settings) entries) =
      .ok t
  counts : Counts t checked.config.settings.maxNodeCount m
  outcome : o.tree = some m.tree ∧ o.basePath = rootOf s.environment checked.config.settings ∧
    o.maxNodeCount = checked.config.settings.maxNodeCount ∧ o.summary = m.summary.toMembers

theorem reported_of_takes {config : Value} {savePath : Option String} {o : Outcome} {s' : Session}
    (hrun : Takes (run buildFromFiles config savePath) s o s') (hok : o.ok = true) :
    ∃ checked selection entries t m, Reported s config o checked selection entries t m := by
  obtain ⟨checked, selection, m, hcheck, hfolder, hselects, hmeasure, ho⟩ := run_succeeded hrun hok
  have hlist : ∃ entries, s.files.list (rootOf s.environment checked.config.settings) =
      .ok entries := by
    unfold FileStore.isFolder at hfolder
    split at hfolder
    · rename_i entries hentry
      exact ⟨entries, FileStore.list_eq_ok_iff.2 hentry⟩
    · cases hfolder
  obtain ⟨entries, hlist⟩ := hlist
  have hbudget : 1 ≤ checked.config.settings.maxNodeCount :=
    (Config.sound_of_check hcheck).1.settings.maxNodeCount
  obtain ⟨t, finish, hsurvey, hcounts⟩ := measure_eq_ok hlist hbudget hmeasure
  refine ⟨checked, selection, entries, t, m, hcheck, hselects, hlist, ⟨finish, hsurvey⟩, hcounts,
    ?_⟩
  simp only [ho, Outcome.succeeded, and_self]

/-- Two analyses that agree besides the counts look at the same folder and build the same tree. -/
theorem Reported.same_tree {ms ms' : Members} {o o' : Outcome} {checked checked' : Config.Checked}
    {entries' : List (String × Entry)} {t t' : Tree} {m m' : Measured}
    (h : Reported s (.object ms) o checked selection entries t m)
    (h' : Reported r (.object ms') o' checked' selection' entries' t' m')
    (hagree : AgreeBesides countNames ms ms') (hstill : Still s r) : t = t' := by
  obtain ⟨hcheck', hselects', hlist', ⟨finish', hsurvey'⟩, -, -⟩ := h'
  obtain ⟨finish, hsurvey⟩ := h.survey
  rw [hstill.environment_eq] at hcheck' hselects' hlist' hsurvey'
  rw [hstill.files_eq] at hselects' hlist' hsurvey'
  have hsame := Config.uncounted_eq hagree h.check hcheck'
  have hinput : (uncounted checked.config.settings).inputPath =
      (uncounted checked'.config.settings).inputPath := congrArg Settings.inputPath hsame
  have hroot : rootOf s.environment checked'.config.settings =
      rootOf s.environment checked.config.settings := by
    unfold rootOf
    rw [show checked.config.settings.inputPath = checked'.config.settings.inputPath from hinput]
  rw [hroot] at hselects' hlist' hsurvey'
  rw [h.list, Except.ok.injEq] at hlist'
  subst hlist'
  obtain rfl := h.selects.eq_of_uncounted hsame hselects'
  exact eq_of_ofSurvey hsurvey hsurvey'

/-- **The summary of an analysis is true, and the tree is within its budget,** for every folder and
    every configuration with which the analysis leads to a tree. The files that are analysed,
    their lines and the nodes before collapsing are the same for all configurations that agree
    besides the counts. -/
theorem summary_is_truthful {config : Value} {savePath : Option String} {s s' : Session}
    {o : Outcome} (hproper : s.files.root.isProper = true)
    (hrun : Takes (run buildFromFiles config savePath) s o s') (hok : o.ok = true) :
    (∃ checked selection entries tree summary,
      Config.check false s.environment.currentFolder config = .ok checked ∧
      o.basePath = rootOf s.environment checked.config.settings ∧
      o.maxNodeCount = checked.config.settings.maxNodeCount ∧
      Selects s.environment.patterns s.files checked.config.settings o.basePath selection ∧
      s.files.list o.basePath = .ok entries ∧
      o.tree = some tree ∧ o.summary = summary.toMembers ∧
      Truthful s.files selection o.basePath entries o.maxNodeCount tree summary) ∧
    ∀ ms ms' savePath' r r' o', config = .object ms → AgreeBesides countNames ms ms' →
      Still s r → Takes (run buildFromFiles (.object ms') savePath') r o' r' → o'.ok = true →
      ∀ key ∈ countedBefore, o'.summary.get? key = o.summary.get? key := by
  obtain ⟨checked, selection, entries, t, m, hreported⟩ := reported_of_takes hrun hok
  obtain ⟨htree, hbase, hbudget, hsummary⟩ := hreported.outcome
  constructor
  · obtain ⟨finish, hsurvey⟩ := hreported.survey
    -- the folder that is listed is a part of the store
    have hentries : (Entry.folder entries).isProper = true := by
      obtain ⟨place, -, hplace⟩ :=
        FileStore.entry_eq_ok_iff.1 (FileStore.list_eq_ok_iff.1 hreported.list)
      exact Entry.isProper_get? hproper hplace
    refine ⟨checked, selection, entries, m.tree, m.summary, hreported.check, hbase, hbudget, ?_⟩
    rw [hbase, hbudget]
    exact ⟨hreported.selects, hreported.list, htree, hsummary,
      truthful_of_counts hreported.list hentries hsurvey hreported.counts⟩
  · intro ms ms' savePath' r r' o' hobject hagree hstill hrun' hok' key hkey
    subst hobject
    obtain ⟨checked', selection', entries', t', m', hreported'⟩ := reported_of_takes hrun' hok'
    -- both analyses build the same tree, so only what comes after it may differ
    obtain rfl := hreported.same_tree hreported' hagree hstill
    rw [hreported'.outcome.2.2.2, hsummary]
    refine get?_toMembers_of_mem ?_ ?_ ?_ hkey
    · rw [hreported'.counts.filesAnalyzed, hreported.counts.filesAnalyzed]
    · rw [hreported'.counts.totalLines, hreported.counts.totalLines]
    · rw [hreported'.counts.nodesBefore, hreported.counts.nodesBefore]

/-! ## A sample -/

/-- Two files, one of them in a folder, and a file that is passed over. -/
def sampleSources : List (String × Entry) :=
  [("a.cs", .file [0x7d, 0x0a]), ("lib", .folder [("b.cs", .file [0x3b])]), ("notes", .file [])]

/-- A session in which the sources are in the folder `/p`. -/
def sampleSession : Session where
  files := { root := .folder [("p", .folder sampleSources)], current := [] }
  log := []
  environment :=
    { values := [], currentFolder := "/", ownHome := none, homeOf := fun _ => none,
      patterns := { characterNamed := fun _ => none, room := 1000 } }

/-- Members that exclude nothing, with some counts. -/
def sampleMembers (nodes workers : Int) : Members :=
  [("input_path", .string "/p"), ("exclude_patterns", .array []), ("max_node_count", .int nodes),
   ("max_workers", .int workers)]

/-- The settings that these members give. -/
def sampleSettings (nodes workers : Int) : Settings :=
  { Settings.default "/" with
    inputPath := "/p", excludePatterns := [], maxNodeCount := nodes, maxWorkers := workers }

/-- The selection that these settings give. -/
def sampleSelection : Selection where
  extensions := [".cs"]
  included :=
    ((NameRule.ofSources sampleSession.environment.patterns [".*"]).toOption.getD ([], [])).1
  excluded := []

theorem files_sampleSources :
    (Survey.ofFolder (chooserOf sampleSelection) "/p" sampleSources).files =
      ["/p/a.cs", "/p/lib/b.cs"] := by
  have htakes : sampleSelection.takesFile (Path.join "/p" "a.cs") = true ∧
      sampleSelection.entersFolder (Path.join "/p" "lib") = true ∧
      sampleSelection.takesFile (Path.join (Path.join "/p" "lib") "b.cs") = true ∧
      sampleSelection.takesFile (Path.join "/p" "notes") = false := by decide +kernel
  have hpaths : Path.join "/p" "a.cs" = "/p/a.cs" ∧
      Path.join (Path.join "/p" "lib") "b.cs" = "/p/lib/b.cs" := by decide +kernel
  unfold Survey.ofFolder sampleSources
  simp only [Survey.ofEntries, chooserOf, htakes, if_true, if_false, Bool.false_eq_true,
    Survey.sorted]
  -- the names are in order already
  rw [List.mergeSort_of_pairwise (by decide), List.mergeSort_of_pairwise (by decide +kernel)]
  simp only [List.map, Survey.files, Survey.filesOf, List.append_nil, hpaths, List.cons_append,
    List.nil_append]

theorem selects_sampleSession (nodes workers : Int) :
    Selects sampleSession.environment.patterns sampleSession.files (sampleSettings nodes workers)
      "/p" sampleSelection := by
  have hpattern :
      (NameRule.ofSources sampleSession.environment.patterns [".*"]).toOption.isSome = true := by
    decide +kernel
  cases hincluded : NameRule.ofSources sampleSession.environment.patterns [".*"] with
  | error e =>
    rw [hincluded] at hpattern
    cases hpattern
  | ok rules =>
    refine ⟨rfl, ⟨rules.2, ?_⟩, ⟨[], [], [], [], rfl, rfl, rfl⟩⟩
    show NameRule.ofSources sampleSession.environment.patterns [".*"] = _
    unfold sampleSelection
    rw [hincluded]
    rfl

/-- The sample can be analysed, whatever the counts are. -/
theorem takes_sampleSession (nodes workers : Int) (config : Value) (hb : 1 ≤ nodes)
    (hcheck : (Config.check false "/" config).toOption.map (fun c => c.config.settings) =
      some (sampleSettings nodes workers)) :
    ∃ o s', Takes (run buildFromFiles config none) sampleSession o s' ∧ o.ok = true := by
  obtain ⟨checked, hchecked, hsettings⟩ := exists_of_toOption_map hcheck
  -- the counts play no part in finding the folder
  have hroot : rootOf sampleSession.environment (sampleSettings nodes workers) = "/p" := by
    have hdefault : rootOf sampleSession.environment (sampleSettings 1 1) = "/p" := by
      decide +kernel
    exact hdefault
  have hentry : sampleSession.files.entry "/p" = .ok (.folder sampleSources) := by
    unfold FileStore.entry FileStore.locate
    -- the only test that does not evaluate is the one for a null character
    simp only [String.contains_char_eq]
    with_unfolding_all rfl
  have hlist : sampleSession.files.list "/p" = .ok sampleSources :=
    FileStore.list_eq_ok_iff.2 hentry
  have hfolder : sampleSession.files.isFolder "/p" = true := by rw [FileStore.isFolder, hentry]
  have hproper : (Entry.folder sampleSources).isProper = true := by decide +kernel
  have hread : contentAt sampleSession.files "/p/a.cs" = [0x7d, 0x0a] ∧
      contentAt sampleSession.files "/p/lib/b.cs" = [0x3b] := by
    unfold contentAt FileStore.read FileStore.entry FileStore.locate
    simp only [String.contains_char_eq]
    decide +kernel
  -- two files with so little in them have numbers that have doubles
  have hsmall : Measure.lines.ofText (Text.decode [0x7d, 0x0a]) +
      (Measure.lines.ofText (Text.decode [0x3b]) + 0) < Number.twoTo 1000 ∧
      (tokenize (Text.decode [0x7d, 0x0a])).length < Number.twoTo 1000 ∧
      (tokenize (Text.decode [0x3b])).length < Number.twoTo 1000 := by decide +kernel
  have hsurvey : ∃ t, Tree.ofSurvey sampleSession.files.readText
      (sampleSettings nodes workers).maxWorkers
      (List.range (Survey.ofFolder (chooserOf sampleSelection) "/p" sampleSources).files.length)
      (Survey.ofFolder (chooserOf sampleSelection) "/p" sampleSources) = .ok t := by
    apply Tree.ofSurvey_succeeds fun p hp => readText_of_mem_files hlist hproper hp
    · rw [files_sampleSources, inFiles_cons, inFiles_cons, inFiles_nil, hread.1, hread.2]
      exact hsmall.1
    · rw [files_sampleSources, List.forall_mem_cons, List.forall_mem_singleton, hread.1, hread.2]
      exact hsmall.2
  obtain ⟨t, hsurvey⟩ := hsurvey
  obtain ⟨m, hmeasure, -⟩ := measure_of_ofSurvey hlist hb hsurvey
  have hquiet : outputPathOf none (sampleSettings nodes workers) = "" := rfl
  rw [← hsettings] at hroot hmeasure hquiet
  have hselects := selects_sampleSession nodes workers
  rw [← hsettings] at hselects
  rw [← hroot] at hfolder hselects hmeasure
  exact run_takes hchecked hfolder hselects hmeasure hquiet

theorem summary_is_truthful_sampleSession :
    sampleSession.files.root.isProper = true ∧
    AgreeBesides countNames (sampleMembers 2 1) (sampleMembers 9 4) ∧
    ∃ o s' o' r',
      Takes (run buildFromFiles (.object (sampleMembers 2 1)) none) sampleSession o s' ∧
      o.ok = true ∧
      Takes (run buildFromFiles (.object (sampleMembers 9 4)) none) sampleSession o' r' ∧
      o'.ok = true ∧
      (∃ checked selection entries tree summary,
        Config.check false "/" (.object (sampleMembers 2 1)) = .ok checked ∧
        o.basePath = rootOf sampleSession.environment checked.config.settings ∧
        o.maxNodeCount = checked.config.settings.maxNodeCount ∧
        Selects sampleSession.environment.patterns sampleSession.files checked.config.settings
          o.basePath selection ∧
        sampleSession.files.list o.basePath = .ok entries ∧
        o.tree = some tree ∧ o.summary = summary.toMembers ∧
        Truthful sampleSession.files selection o.basePath entries o.maxNodeCount tree summary) ∧
      ∀ key ∈ countedBefore, o'.summary.get? key = o.summary.get? key := by
  have hproper : sampleSession.files.root.isProper = true := by decide +kernel
  have hagree : AgreeBesides countNames (sampleMembers 2 1) (sampleMembers 9 4) := by
    intro key hkey
    unfold countNames at hkey
    simp only [List.mem_cons, List.not_mem_nil, or_false, not_or] at hkey
    obtain ⟨hnodes, hworkers⟩ := hkey
    have hne : (key == "max_node_count") = false ∧ (key == "max_workers") = false :=
      ⟨beq_eq_false_iff_ne.2 hnodes, beq_eq_false_iff_ne.2 hworkers⟩
    have hobject (nodes workers : Int) :
        Members.ofList (sampleMembers nodes workers) = sampleMembers nodes workers := by
      apply Members.ofList_of_nodup
      show ["input_path", "exclude_patterns", "max_node_count", "max_workers"].Nodup
      decide
    rw [hobject, hobject]
    simp only [sampleMembers, Members.get?, List.lookup_cons, hne, List.lookup_nil]
  obtain ⟨o, s', hrun, hok⟩ := takes_sampleSession 2 1 (.object (sampleMembers 2 1))
    (by decide) (by decide +kernel)
  obtain ⟨o', r', hrun', hok'⟩ := takes_sampleSession 9 4 (.object (sampleMembers 9 4))
    (by decide) (by decide +kernel)
  obtain ⟨htrue, hsame⟩ := summary_is_truthful hproper hrun hok
  refine ⟨hproper, hagree, o, s', o', r', hrun, hok, hrun', hok', htrue, ?_⟩
  exact hsame _ _ none sampleSession r' o' rfl hagree (Still.refl _) hrun' hok'

end SourceCensus.Analysis
