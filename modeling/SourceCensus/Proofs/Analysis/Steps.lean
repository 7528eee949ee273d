import SourceCensus.Analysis.Run
import SourceCensus.Proofs.Success

/-! # The steps of an analysis

    `Takes x s a s'` says that a step of an analysis, taken in the session `s`, gives `a` and leaves
    the session `s'`. There is one equivalence for each way to make a step (`takes_bind`,
    `takes_record`, `takes_orAbort`), and with them one for each part of an analysis.

    Up to the end an analysis writes nothing but log entries: its steps leave the files and the
    environment as they are (`Still`). So an analysis that leads to a tree has checked its
    configuration, made its selection and measured the tree with the files that were there at the
    start (`run_succeeded`), and one that can do all this leads to a tree (`run_takes`).
-/

namespace SourceCensus

/-- Two sessions with the same files and the same environment. -/
structure Session.Still (s s' : Session) : Prop where
  files_eq : s'.files = s.files
  environment_eq : s'.environment = s.environment

/-- A session with more entries in its log. -/
def Session.logged (s : Session) (entries : List LogEntry) : Session :=
  { s with log := s.log ++ entries }

namespace Session.Still

theorem refl (s : Session) : Still s s := ⟨rfl, rfl⟩

end Session.Still

namespace Analysis

open Json (Value Members)
open Session (Still)

variable {α β ε : Type} {x : Step α} {f : α → Step β} {a : α} {b : β} {s s' : Session}

/-! ## Steps one after the other -/

/-- A step that is taken in a session gives a value and leaves another session. -/
def Takes (x : Step α) (s : Session) (a : α) (s' : Session) : Prop := x.run.run s = (.ok a, s')

/-- **Two steps** are taken one after the other. -/
theorem takes_bind : Takes (x >>= f) s b s' ↔
    ∃ a between, Takes x s a between ∧ Takes (f a) between b s' := by
  unfold Takes
  rw [ExceptT.run_bind, StateT.run_bind]
  -- an error ends both sides; else the second step begins in the session that the first leaves
  cases hx : x.run.run s with
  | mk outcome between =>
    cases outcome with
    | error e =>
      constructor
      · intro h
        cases h
      · intro h
        obtain ⟨a, next, hfirst, -⟩ := h
        cases hfirst
    | ok a =>
      constructor
      · intro h
        exact ⟨a, between, rfl, h⟩
      · intro h
        obtain ⟨a', next, hfirst, hsecond⟩ := h
        cases hfirst
        exact hsecond

theorem takes_pure {c : α} : Takes (pure a) s c s' ↔ c = a ∧ s' = s := by
  constructor
  · intro h
    cases h
    exact ⟨rfl, rfl⟩
  · intro h
    rw [h.1, h.2]
    rfl

theorem not_takes_throw {e : Abort} : ¬ Takes (throw e : Step α) s a s' := by
  intro h
  cases h

/-- Looking at the session leaves it as it is. -/
theorem takes_get {f : Session → Step β} : Takes (get >>= f) s b s' ↔ Takes (f s) s b s' := Iff.rfl

/-- Putting entries into the log leaves all else as it is. -/
theorem takes_record {entries : List LogEntry} {f : Unit → Step β} :
    Takes (record entries >>= f) s b s' ↔ Takes (f ()) (s.logged entries) b s' := Iff.rfl

/-- A value that can be had is had, and nothing changes. -/
theorem takes_orAbort {abort : ε → Abort} {v : Except ε α} :
    Takes (orAbort abort v >>= f) s b s' ↔ ∃ a, v = .ok a ∧ Takes (f a) s b s' := by
  cases v with
  | error e =>
    constructor
    · intro h
      cases h
    · intro h
      obtain ⟨a, herror, -⟩ := h
      cases herror
  | ok a =>
    constructor
    · intro h
      exact ⟨a, rfl, h⟩
    · intro h
      obtain ⟨a', hok, h⟩ := h
      cases hok
      exact h

/-! ## The parts of an analysis -/

theorem takes_checkConfig {config : Value} {c : Config} : Takes (checkConfig config) s c s' ↔
    ∃ checked, Config.check false s.environment.currentFolder config = .ok checked ∧
      c = checked.config ∧ s' = (s.logged checked.log).logged
        (checked.remarks.map fun r => ⟨.warning, "Configuration Warning: " ++ r.message⟩) := by
  unfold checkConfig
  rw [takes_get]
  dsimp only
  rw [takes_orAbort]
  simp only [takes_record, takes_pure]

/-- What makes a selection that of the settings, for a folder. -/
structure Selects (f : Pattern.Facilities) (fs : FileStore) (settings : Settings) (root : String)
    (selection : Selection) : Prop where
  /-- The extensions are those of the settings. -/
  extensions : selection.extensions = settings.extensions
  /-- The inclusions are the patterns of the settings. -/
  included : ∃ log, NameRule.ofSources f settings.includePatterns = .ok (selection.included, log)
  /-- The exclusions are the patterns of the settings and, if the settings say so, the globs of the
      folder's ignore file. -/
  excluded : ∃ patterns log globs ignoreLog,
    NameRule.ofSources f settings.excludePatterns = .ok (patterns, log) ∧
    (if settings.respectIgnoreFile then fs.ignoreRules root else .ok ([], [])) =
      .ok (globs, ignoreLog) ∧
    selection.excluded = patterns ++ globs.map .glob

/-- The globs and the patterns are made one after the other, and logged. -/
theorem takes_makeSelection {settings : Settings} {root : String} {selection : Selection} :
    Takes (makeSelection settings root) s selection s' ↔ ∃ globs ignoreLog,
      (if settings.respectIgnoreFile then s.files.ignoreRules root else .ok ([], [])) =
        .ok (globs, ignoreLog) ∧ ∃ included includeLog,
      NameRule.ofSources s.environment.patterns settings.includePatterns =
        .ok (included, includeLog) ∧ ∃ patterns excludeLog,
      NameRule.ofSources s.environment.patterns settings.excludePatterns =
        .ok (patterns, excludeLog) ∧
      selection = ⟨settings.extensions, included, patterns ++ globs.map .glob⟩ ∧
      s' = ((s.logged ignoreLog).logged includeLog).logged excludeLog := by
  unfold makeSelection
  rw [takes_get, takes_get]
  dsimp only
  by_cases hrespects : settings.respectIgnoreFile = true
  · rw [if_pos hrespects, if_pos hrespects]
    simp only [takes_orAbort, takes_record, takes_pure, Prod.exists]
  · rw [if_neg hrespects, if_neg hrespects, pure_bind]
    simp only [takes_orAbort, takes_record, takes_pure, Prod.exists, Except.ok.injEq,
      Prod.mk.injEq, and_assoc, exists_and_left, exists_eq_left']

theorem Selects.of_takes {settings : Settings} {root : String} {selection : Selection}
    (h : Takes (makeSelection settings root) s selection s') :
    Still s s' ∧ Selects s.environment.patterns s.files settings root selection := by
  obtain ⟨globs, ignoreLog, hglobs, included, includeLog, hincluded, patterns, excludeLog,
    hpatterns, rfl, rfl⟩ := takes_makeSelection.1 h
  exact ⟨⟨rfl, rfl⟩, rfl, ⟨includeLog, hincluded⟩, patterns, excludeLog, globs, ignoreLog,
    hpatterns, hglobs, rfl⟩

theorem Selects.takes {settings : Settings} {root : String} {selection : Selection}
    (h : Selects s.environment.patterns s.files settings root selection) :
    ∃ s', Takes (makeSelection settings root) s selection s' := by
  obtain ⟨includeLog, hincluded⟩ := h.included
  obtain ⟨patterns, excludeLog, globs, ignoreLog, hpatterns, hglobs, hexcluded⟩ := h.excluded
  refine ⟨_, takes_makeSelection.2 ⟨globs, ignoreLog, hglobs, selection.included, includeLog,
    hincluded, patterns, excludeLog, hpatterns, ?_, rfl⟩⟩
  rw [← h.extensions, ← hexcluded]

/-- A failed outcome has no tree. -/
theorem not_ok_of_takes_fail {text root : String} {settings : Settings} {summary : Members}
    {o : Outcome} (h : Takes (fail text root settings summary) s o s') : ¬ o.ok = true := by
  unfold fail note at h
  rw [takes_record, takes_pure] at h
  rw [h.1]
  exact Bool.false_ne_true

theorem eq_of_takes_finish {m : Measured} {root outputPath : String} {settings : Settings}
    {o : Outcome} (h : Takes (finish m root settings outputPath) s o s') (hok : o.ok = true) :
    o = .succeeded m.tree root settings.maxNodeCount outputPath m.summary.toMembers := by
  unfold finish at h
  dsimp only at h
  -- whether a file is asked for or not, the analysis is closed in the same way
  split at h
  all_goals
    obtain ⟨written, next, -, h⟩ := takes_bind.1 h
    cases written with
    | error e => exact absurd hok (not_ok_of_takes_fail h)
    | ok u =>
      unfold note at h
      rw [takes_record, takes_pure] at h
      exact h.1

theorem takes_finish (s : Session) (m : Measured) (root : String) (settings : Settings) :
    ∃ o s', Takes (finish m root settings "") s o s' ∧ o.ok = true :=
  ⟨_, _, rfl, rfl⟩

/-! ## The whole analysis -/

/-- The folder that an analysis looks at. -/
def rootOf (environment : Environment) (settings : Settings) : String :=
  Path.resolve environment settings.inputPath environment.currentFolder

variable {build : Builder} {config : Value} {savePath : Option String} {o : Outcome}
  {checked : Config.Checked} {selection : Selection} {m : Measured}

/-- **What an analysis that leads to a tree has done.** -/
theorem run_succeeded (h : Takes (run build config savePath) s o s') (hok : o.ok = true) :
    ∃ checked selection m,
      Config.check false s.environment.currentFolder config = .ok checked ∧
      s.files.isFolder (rootOf s.environment checked.config.settings) = true ∧
      Selects s.environment.patterns s.files checked.config.settings
        (rootOf s.environment checked.config.settings) selection ∧
      measure build s.files checked.config.settings selection
        (rootOf s.environment checked.config.settings) = .ok m ∧
      o = .succeeded m.tree (rootOf s.environment checked.config.settings)
        checked.config.settings.maxNodeCount (outputPathOf savePath checked.config.settings)
        m.summary.toMembers := by
  unfold run note at h
  rw [takes_record, takes_bind] at h
  obtain ⟨c, ready, hchecked, h⟩ := h
  obtain ⟨checked, hcheck, rfl, hready⟩ := takes_checkConfig.1 hchecked
  -- checking the configuration only adds to the log
  have hstill : Still s ready := by
    rw [hready]
    exact ⟨rfl, rfl⟩
  have hroot : Path.resolve s.environment checked.config.settings.inputPath
      s.environment.currentFolder = rootOf s.environment checked.config.settings := rfl
  rw [takes_get, takes_get] at h
  rw [hstill.environment_eq, hstill.files_eq, hroot] at h
  by_cases hfolder : s.files.isFolder (rootOf s.environment checked.config.settings) = true
  · rw [hfolder, Bool.not_true, if_neg Bool.false_ne_true, takes_bind] at h
    obtain ⟨selection, chosen, hselection, h⟩ := h
    obtain ⟨hchosen, hselects⟩ := Selects.of_takes hselection
    rw [hstill.environment_eq, hstill.files_eq] at hselects
    rw [takes_get, hchosen.files_eq, hstill.files_eq] at h
    refine ⟨checked, selection, ?_⟩
    cases hmeasure : measure build s.files checked.config.settings selection
        (rootOf s.environment checked.config.settings) with
    | error stopped =>
      -- a tree that cannot be built leads to a failed outcome or to none
      rw [hmeasure] at h
      replace h := takes_record.1 h
      cases htrouble : stopped.trouble with
      | reported text =>
        rw [htrouble] at h
        exact absurd hok (not_ok_of_takes_fail h)
      | fatal e =>
        rw [htrouble] at h
        exact absurd h not_takes_throw
    | ok m =>
      -- nothing else has gone wrong, so the outcome is that of the last step
      rw [hmeasure] at h
      exact ⟨m, hcheck, hfolder, hselects, rfl, eq_of_takes_finish (takes_record.1 h) hok⟩
  · rw [Bool.not_eq_true] at hfolder
    rw [hfolder, Bool.not_false, if_pos rfl] at h
    exact absurd hok (not_ok_of_takes_fail h)

/-- An analysis that writes no file leads to a tree when all its parts succeed. -/
theorem run_takes (hcheck : Config.check false s.environment.currentFolder config = .ok checked)
    (hfolder : s.files.isFolder (rootOf s.environment checked.config.settings) = true)
    (hselects : Selects s.environment.patterns s.files checked.config.settings
      (rootOf s.environment checked.config.settings) selection)
    (hmeasure : measure build s.files checked.config.settings selection
      (rootOf s.environment checked.config.settings) = .ok m)
    (hquiet : outputPathOf savePath checked.config.settings = "") :
    ∃ o s', Takes (run build config savePath) s o s' ∧ o.ok = true := by
  have hchecked : ∃ ready, Takes (checkConfig config) (s.logged [⟨.info, "Analysis started."⟩])
      checked.config ready ∧ Still s ready :=
    ⟨_, takes_checkConfig.2 ⟨checked, hcheck, rfl, rfl⟩, rfl, rfl⟩
  obtain ⟨ready, hchecked, hstill⟩ := hchecked
  -- the steps before the selection leave the files as they are
  have hready : Selects ready.environment.patterns ready.files checked.config.settings
      (rootOf s.environment checked.config.settings) selection := by
    rw [hstill.environment_eq, hstill.files_eq]
    exact hselects
  obtain ⟨chosen, hselection⟩ := hready.takes
  have hchosen := (Selects.of_takes hselection).1
  obtain ⟨o, s', hfinish, hok⟩ := takes_finish (chosen.logged m.log) m
    (rootOf s.environment checked.config.settings) checked.config.settings
  have hroot : Path.resolve s.environment checked.config.settings.inputPath
      s.environment.currentFolder = rootOf s.environment checked.config.settings := rfl
  refine ⟨o, s', ?_, hok⟩
  unfold run note
  rw [takes_record, takes_bind]
  refine ⟨checked.config, ready, hchecked, ?_⟩
  rw [takes_get, takes_get]
  rw [hstill.environment_eq, hstill.files_eq, hroot, hfolder, Bool.not_true,
    if_neg Bool.false_ne_true, takes_bind]
  refine ⟨selection, chosen, hselection, ?_⟩
  rw [takes_get, hchosen.files_eq, hstill.files_eq, hmeasure, hquiet]
  exact takes_record.2 hfinish

end Analysis

end SourceCensus
