import SourceCensus.Proofs.Build.Selection
import SourceCensus.Proofs.Survey.Order

/-! # Files that cannot be read

    A reader may fail on any files, on each with an error of its own. A build then fails, and what
    it reports is the error of the first selected file that cannot be read, in the lexicographic
    order of the names that lead to the files (`FirstFailure`). How many workers read the files, and
    in which order they finish, is not to be seen (`build_reports_first_failure`).

    The build of a survey is compared with reading its files one after the other: it fails with
    the same error (`ofSurvey_of_mapM_error`) or has a tree (`ofSurvey_of_readable`).
-/

namespace SourceCensus.Tree

open Survey (Chooser Listing SelectedAlong)

variable {chooser : Chooser} {root : String} {entries : List (String × Entry)} {fs : FileStore}
  {workers : Int} {finish : List Nat} {s : Survey} {e : Entry} {names : List String}
  {files : List String} {ε : Type} {read : String → Except ε Text} {failure : ε}

/-! ## Texts that can be counted -/

/-- The text of a file, where it can be read. -/
def textOf (read : String → Except ε Text) (p : String) : Text := (read p).toOption.getD []

theorem read_eq_textOf {p : String} (h : ∃ t, read p = .ok t) : read p = .ok (textOf read p) := by
  obtain ⟨t, ht⟩ := h
  rw [textOf, ht]
  rfl

/-- The files that can be read have numbers of lines and tokens that have doubles: together they
    have less than two to the power of 1000 lines, and none has so many tokens. -/
structure TextsInRange (read : String → Except ε Text) (files : List String) : Prop where
  lines : Measure.lines.inFiles (textOf read) (files.filter fun p => (read p).isOk) <
    Number.twoTo 1000
  tokens : ∀ p ∈ files, (tokenize (textOf read p)).length < Number.twoTo 1000

/-- A file that can be read has a leaf. -/
theorem TextsInRange.ofFile_succeeds (h : TextsInRange read files) {p : String} (hp : p ∈ files)
    (hread : ∃ t, read p = .ok t) : ∃ t, ofFile read p = .ok t := by
  have hok : (read p).isOk = true := by
    obtain ⟨t, ht⟩ := hread
    rw [ht]
    rfl
  have hle : Measure.lines.ofText (textOf read p) ≤
      Measure.lines.inFiles (textOf read) (files.filter fun p => (read p).isOk) :=
    ofText_le_inFiles (List.mem_filter.2 ⟨hp, hok⟩)
  exact Tree.ofFile_succeeds (read_eq_textOf hread) (Int.lt_of_le_of_lt hle h.lines) (h.tokens p hp)

/-! ## Reading the files of a survey -/

/-- A file with a leaf can be read. -/
theorem read_of_ofFile_ok {p : String} {t : Tree} (h : ofFile read p = .ok t) :
    ∃ text, read p = .ok text := by
  unfold ofFile at h
  cases hread : read p with
  | ok text => exact ⟨text, rfl⟩
  | error e =>
    rw [hread] at h
    cases h

/-- A file is reported as unreadable just when it is. -/
theorem ofFile_eq_read_error_iff {p : String} :
    ofFile read p = .error (.read failure) ↔ read p = .error failure := by
  unfold ofFile
  cases read p with
  | error e => simp
  | ok text =>
    dsimp only
    cases ofText p text <;> simp

/-- **Where there is a tree,** all files can be read. -/
theorem readable_of_ofSurvey_ok {t : Tree} (h : ofSurvey read workers finish s = .ok t) :
    ∀ p ∈ s.files, ∃ text, read p = .ok text := by
  obtain ⟨made, hmade, -⟩ := ofSurvey_eq_ok_iff.1 h
  intro p hp
  obtain ⟨leaf, hleaf⟩ := succeeds_of_mapM hmade p hp
  exact read_of_ofFile_ok hleaf

/-- **Where a file is reported as unreadable,** reading the files one after the other fails in the
    same way. -/
theorem mapM_read_of_ofSurvey_error
    (h : ofSurvey read workers finish s = .error (.read failure)) :
    s.files.mapM read = .error failure := by
  have hmade : s.files.mapM (ofFile read) = .error (.read failure) := by
    rw [ofSurvey, Workers.results_eq_oneByOne, Workers.oneByOne_eq_mapM] at h
    cases hmade : s.files.mapM (ofFile read) with
    | error why =>
      rw [hmade] at h
      exact congrArg Except.error (Except.error.inj h)
    | ok made =>
      -- once the leaves are made, only numbers can fail
      rw [hmade] at h
      dsimp only at h
      cases hassemble : assemble (s.files.zip made) s <;> rw [hassemble] at h <;> cases h
  obtain ⟨before, p, after, hfiles, hbefore, hp⟩ := mapM_eq_error_iff.1 hmade
  apply mapM_eq_error_iff.2
  refine ⟨before, p, after, hfiles, ?_, ofFile_eq_read_error_iff.1 hp⟩
  intro q hq
  obtain ⟨leaf, hleaf⟩ := hbefore q hq
  exact read_of_ofFile_ok hleaf

/-- **Files that can all be read** have a tree. -/
theorem ofSurvey_of_readable (h : TextsInRange read s.files)
    (hread : ∀ p ∈ s.files, ∃ text, read p = .ok text) :
    ∃ t, ofSurvey read workers finish s = .ok t := by
  have hfilter : s.files.filter (fun p => (read p).isOk) = s.files := by
    apply List.filter_eq_self.2
    intro p hp
    obtain ⟨t, ht⟩ := hread p hp
    rw [ht]
    rfl
  have hlines := h.lines
  rw [hfilter] at hlines
  exact ofSurvey_succeeds (fun p hp => read_eq_textOf (hread p hp)) hlines h.tokens

/-- **Files that cannot all be read** have no tree, and the first error is the outcome. -/
theorem ofSurvey_of_mapM_error (h : TextsInRange read s.files)
    (hread : s.files.mapM read = .error failure) :
    ofSurvey read workers finish s = .error (.read failure) := by
  obtain ⟨before, p, after, hfiles, hbefore, hp⟩ := mapM_eq_error_iff.1 hread
  have hmade : s.files.mapM (ofFile read) = .error (.read failure) := by
    apply mapM_eq_error_iff.2
    refine ⟨before, p, after, hfiles, ?_, ofFile_eq_read_error_iff.2 hp⟩
    -- what comes before can be read, so it can be analysed as well
    intro q hq
    have hmem : q ∈ s.files := hfiles ▸ List.mem_append_left _ hq
    exact h.ofFile_succeeds hmem (hbefore q hq)
  rw [ofSurvey, Workers.results_eq_oneByOne, Workers.oneByOne_eq_mapM, hmade]

/-- With numbers that have doubles a survey fails just as reading its files one after the other
    does. -/
theorem ofSurvey_eq_error_iff (h : TextsInRange read s.files) {why : BuildError ε} :
    ofSurvey read workers finish s = .error why ↔
      ∃ e, why = .read e ∧ s.files.mapM read = .error e := by
  constructor
  · intro hfails
    cases hread : s.files.mapM read with
    | ok texts =>
      obtain ⟨t, ht⟩ := ofSurvey_of_readable h (succeeds_of_mapM hread)
      rw [ht] at hfails
      cases hfails
    | error e =>
      rw [ofSurvey_of_mapM_error h hread, Except.error.injEq] at hfails
      exact ⟨e, hfails.symm, rfl⟩
  · intro hfails
    obtain ⟨e, rfl, hread⟩ := hfails
    exact ofSurvey_of_mapM_error h hread

/-! ## The first failure -/

/-- The names lead to the first selected file that cannot be read, and this is how reading it
    fails. -/
structure FirstFailure (read : String → Except ε Text) (chooser : Chooser) (root : String)
    (e : Entry) (names : List String) (failure : ε) : Prop where
  /-- The file is selected. -/
  selected : SelectedAlong chooser root e names
  /-- It cannot be read. -/
  fails : read (Path.along root names) = .error failure
  /-- All selected files before it can be read. -/
  before : ∀ other, SelectedAlong chooser root e other → List.Lex (· < ·) other names →
    ∃ text, read (Path.along root other) = .ok text

variable {order : List (List String)}

/-- Reading the listed files one after the other fails as the first failure does. -/
theorem mapM_eq_error_iff_firstFailure (h : Listing chooser root e order) :
    (Survey.ofEntry chooser root e).files.mapM read = .error failure ↔
      ∃ names, FirstFailure read chooser root e names failure := by
  have hasymm : ∀ a b : List String, List.Lex (· < ·) a b → ¬ List.Lex (· < ·) b a :=
    (inferInstance : Std.Asymm (List.Lex (· < ·) : List String → List String → Prop)).asymm
  rw [mapM_eq_error_iff, h.files_eq]
  constructor
  · intro hfirst
    obtain ⟨_, _, _, hsplit, hbefore, hfails⟩ := hfirst
    obtain ⟨above, below, rfl, rfl, hbelow⟩ := List.map_eq_append_iff.1 hsplit
    obtain ⟨names, rest, rfl, rfl, -⟩ := List.map_eq_cons_iff.1 hbelow
    -- what comes before in the list comes before in the order of the names, and only that
    refine ⟨names, (h.complete names).1 (by simp), hfails, ?_⟩
    intro other hother hlex
    -- what is at the names or later is not before them
    obtain ⟨-, hlater, -⟩ := List.pairwise_append.1 h.ascending
    have hlater := (List.pairwise_cons.1 hlater).1
    have hmem := (h.complete other).2 hother
    rw [List.mem_append, List.mem_cons] at hmem
    rcases hmem with habove | rfl | hrest
    · exact hbefore _ (List.mem_map_of_mem habove)
    · exact absurd hlex (hasymm other other hlex)
    · exact absurd hlex (hasymm names other (hlater other hrest))
  · intro hfirst
    obtain ⟨names, hselected, hfails, hbefore⟩ := hfirst
    obtain ⟨above, rest, rfl⟩ := List.append_of_mem ((h.complete names).2 hselected)
    refine ⟨above.map (Path.along root), Path.along root names, rest.map (Path.along root), by simp,
      ?_, hfails⟩
    obtain ⟨-, -, hless⟩ := List.pairwise_append.1 h.ascending
    intro p hp
    obtain ⟨other, hother, rfl⟩ := List.mem_map.1 hp
    -- all that stands above in the list is selected and comes before
    have hmem : other ∈ above ++ names :: rest := List.mem_append_left _ hother
    exact hbefore other ((h.complete other).1 hmem) (hless other hother names List.mem_cons_self)

/-- The files that are listed can all be read when the selected ones can. -/
theorem readable_iff (h : Listing chooser root e order) :
    (∀ p ∈ (Survey.ofEntry chooser root e).files, ∃ text, read p = .ok text) ↔
      ∀ names, SelectedAlong chooser root e names →
        ∃ text, read (Path.along root names) = .ok text := by
  rw [h.files_eq, List.forall_mem_map]
  exact forall_congr' fun names => by rw [h.complete]

/-! ## Building -/

/-- **A build reports the first failure.** The outcome does not depend on the number of the workers
    or on the order in which they finish. A build that gives a tree has read all selected files, and
    one that reports an error of the reader reports that of the first selected file that cannot be
    read. Where the numbers of lines and tokens have doubles there is no other error: there is a
    tree just when all selected files can be read, and otherwise the build fails just with the error
    of the first that cannot. -/
theorem build_reports_first_failure (hlist : fs.list root = .ok entries)
    (hnamed : (Entry.folder entries).wellNamed = true) :
    (∀ finish, Tree.build fs read chooser workers root =
      (ofSurvey read workers finish (Survey.ofFolder chooser root entries)).map fun t =>
        (t, [buildReport root (Survey.ofFolder chooser root entries) t])) ∧
    (∀ others, Tree.build fs read chooser others root = Tree.build fs read chooser workers root) ∧
    (∀ t log, Tree.build fs read chooser workers root = .ok (t, log) →
      ∀ names, SelectedAlong chooser root (.folder entries) names →
        ∃ text, read (Path.along root names) = .ok text) ∧
    (∀ e, Tree.build fs read chooser workers root = .error (.read e) →
      ∃ names, FirstFailure read chooser root (.folder entries) names e) ∧
    (TextsInRange read (Survey.ofFolder chooser root entries).files →
      ((∃ t log, Tree.build fs read chooser workers root = .ok (t, log)) ↔
        ∀ names, SelectedAlong chooser root (.folder entries) names →
          ∃ text, read (Path.along root names) = .ok text) ∧
      (∀ why, Tree.build fs read chooser workers root = .error why ↔
        ∃ names e, why = .read e ∧
          FirstFailure read chooser root (.folder entries) names e)) := by
  -- the files are listed in the order of the names that lead to them
  obtain ⟨order, hlisting⟩ : ∃ order, Listing chooser root (.folder entries) order :=
    Survey.exists_listing hnamed
  -- the outcome of a survey is that of any number of workers, finishing in any order
  have hbuild : ∀ others finish, Tree.build fs read chooser workers root =
      (ofSurvey read others finish (Survey.ofFolder chooser root entries)).map _ :=
    build_eq hlist
  have hfirst : ∀ e, (Survey.ofFolder chooser root entries).files.mapM read = .error e ↔
      ∃ names, FirstFailure read chooser root (.folder entries) names e :=
    fun e => mapM_eq_error_iff_firstFailure hlisting
  have htree : ∀ t log, Tree.build fs read chooser workers root = .ok (t, log) →
      ∀ names, SelectedAlong chooser root (.folder entries) names →
        ∃ text, read (Path.along root names) = .ok text := by
    intro t log h
    rw [hbuild workers []] at h
    obtain ⟨u, hu, -⟩ := map_eq_ok h
    exact (readable_iff hlisting).1 (readable_of_ofSurvey_ok hu)
  refine ⟨hbuild workers, ?_, htree, ?_, ?_⟩
  · intro others
    rw [hbuild others [], build_eq hlist others []]
  · intro e h
    rw [hbuild workers [], map_eq_error_iff] at h
    exact (hfirst e).1 (mapM_read_of_ofSurvey_error h)
  · -- numbers with doubles leave the reader as the only cause of a failure
    intro hrange
    refine ⟨⟨fun ⟨t, log, h⟩ => htree t log h, ?_⟩, ?_⟩
    · intro hreadable
      have hall : ∀ p ∈ (Survey.ofFolder chooser root entries).files, ∃ text, read p = .ok text :=
        (readable_iff hlisting).2 hreadable
      obtain ⟨t, ht⟩ : ∃ t, ofSurvey read workers [] _ = .ok t := ofSurvey_of_readable hrange hall
      exact ⟨t, _, by rw [hbuild workers [], ht]; rfl⟩
    · intro why
      rw [hbuild workers [], map_eq_error_iff, ofSurvey_eq_error_iff hrange]
      constructor
      · intro h
        obtain ⟨e, hwhy, hread⟩ := h
        obtain ⟨names, hfailure⟩ := (hfirst e).1 hread
        exact ⟨names, e, hwhy, hfailure⟩
      · intro h
        obtain ⟨names, e, hwhy, hfailure⟩ := h
        exact ⟨e, hwhy, (hfirst e).2 ⟨names, hfailure⟩⟩

/-- A reader that reads one file of the sample, and no other one. -/
def sampleReader (p : String) : Except FileError Text :=
  if p = "p/B.cs" then .ok (sampleText p)
  else if p = "p/a/z.cs" then .error ⟨.isFolder, p⟩
  else .error ⟨.missing, p⟩

/-- Of the two files of the sample that cannot be read, the one in a folder comes first. -/
theorem build_reports_first_failure_sampleStore :
    sampleStore.list "p" = .ok sampleEntries ∧ (Entry.folder sampleEntries).wellNamed = true ∧
    TextsInRange sampleReader (Survey.ofFolder sampleChooser "p" sampleEntries).files ∧
    Tree.build sampleStore sampleReader sampleChooser 4 "p" =
      .error (.read ⟨.isFolder, "p/a/z.cs"⟩) ∧
    ∃ names, FirstFailure sampleReader sampleChooser "p" (.folder sampleEntries) names
      ⟨.isFolder, "p/a/z.cs"⟩ := by
  have hnamed : (Entry.folder sampleEntries).wellNamed = true := by decide +kernel
  have hrange : TextsInRange sampleReader
      (Survey.ofFolder sampleChooser "p" sampleEntries).files := by
    rw [files_sampleEntries]
    exact ⟨by decide +kernel, by decide +kernel⟩
  have hbuild : Tree.build sampleStore sampleReader sampleChooser 4 "p" =
      .error (.read ⟨.isFolder, "p/a/z.cs"⟩) := by
    have hread : (Survey.ofFolder sampleChooser "p" sampleEntries).files.mapM sampleReader =
        .error ⟨.isFolder, "p/a/z.cs"⟩ := by
      rw [files_sampleEntries]
      decide +kernel
    rw [build_eq list_sampleStore 4 [], ofSurvey_of_mapM_error hrange hread]
    rfl
  obtain ⟨-, -, -, -, hall⟩ := build_reports_first_failure list_sampleStore hnamed
  obtain ⟨-, hfails⟩ := hall hrange
  obtain ⟨names, e, heq, hfirst⟩ := (hfails _).1 hbuild
  cases heq
  exact ⟨list_sampleStore, hnamed, hrange, hbuild, names, hfirst⟩

end SourceCensus.Tree
