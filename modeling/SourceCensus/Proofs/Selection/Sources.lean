import Mathlib.Tactic.Push
import SourceCensus.Proofs.Analysis.Steps
import SourceCensus.Proofs.Pattern.Faults

/-! # Texts that are no patterns

    The rules of a selection are written as texts. A text that is a pattern becomes a rule, and a
    malformed one is dropped with a warning: it is as if it had not been there, but for the warning
    (`ofSources_insert`). Errors that are no matter of the syntax are not passed over: the first of
    them is all that comes of the texts (`malformed_sources_are_dropped`).
-/

namespace SourceCensus.NameRule

open Analysis (Selects)
open Pattern (Compiled Facilities PatternError ShownBy compile)

variable {f : Facilities} {sources before after : List String} {s source name : String}
  {rules : List NameRule} {log : List LogEntry} {e : PatternError} {fs : FileStore}
  {settings : Settings} {root : String} {selection : Selection}

/-! ## One text -/

/-- The pattern that a text writes, if it writes one. -/
def compiled? (f : Facilities) (source : String) : Option Compiled := (compile f source).toOption

/-- The warning about a text that is no pattern. -/
def warning? (f : Facilities) (source : String) : Option LogEntry :=
  match compile f source with
  | .ok _ => none
  | .error e => some (dropped source (e.message source))

/-- A text that breaks the rules of the syntax. -/
def Malformed (f : Facilities) (source : String) : Prop :=
  ∃ e, compile f source = .error e ∧ e.isMalformed = true

/-- A text that is a pattern or malformed. -/
def Harmless (f : Facilities) (source : String) : Prop :=
  ∀ e, compile f source = .error e → e.isMalformed = true

/-- A text writes a pattern that matches somewhere in a name. -/
def Matches (f : Facilities) (source name : String) : Prop :=
  ∃ c, compile f source = .ok c ∧ c.search name = true

theorem compiled?_eq_some_iff {c : Compiled} :
    compiled? f source = some c ↔ compile f source = .ok c := by
  unfold compiled?
  cases compile f source <;> simp [Except.toOption]

/-- A text is one of three things. -/
theorem compile_cases (f : Facilities) (source : String) :
    (∃ c, compile f source = .ok c) ∨ Malformed f source ∨
      ∃ e, compile f source = .error e ∧ e.isMalformed = false := by
  unfold Malformed
  cases compile f source with
  | ok c => exact .inl ⟨c, rfl⟩
  | error e =>
    cases he : e.isMalformed with
    | true => exact .inr (.inl ⟨e, rfl, he⟩)
    | false => exact .inr (.inr ⟨e, rfl, he⟩)

/-! ## Several texts -/

theorem ofSources_cons_of_ok {c : Compiled} (h : compile f s = .ok c) :
    ofSources f (s :: sources) =
      (ofSources f sources).map fun found => (.pattern c :: found.1, found.2) := by
  unfold ofSources
  rw [List.map_cons, ofValues, patternOf, h]
  cases ofValues f (sources.map .string) <;> rfl

theorem ofSources_cons_of_malformed (h : compile f s = .error e) (he : e.isMalformed = true) :
    ofSources f (s :: sources) =
      (ofSources f sources).map fun found => (found.1, dropped s (e.message s) :: found.2) := by
  unfold ofSources
  rw [List.map_cons, ofValues, patternOf, h]
  simp only [he, if_true]
  cases ofValues f (sources.map .string) <;> rfl

theorem ofSources_cons_of_error (h : compile f s = .error e) (he : e.isMalformed = false) :
    ofSources f (s :: sources) = .error e := by
  unfold ofSources
  rw [List.map_cons, ofValues, patternOf, h]
  simp only [he, Bool.false_eq_true, if_false]
  rfl

/-- **Harmless texts** give a rule for each pattern, and a warning for each malformed text, both in
    the order of the texts. -/
theorem ofSources_of_harmless (h : ∀ s ∈ sources, Harmless f s) :
    ofSources f sources = .ok ((sources.filterMap (compiled? f)).map .pattern,
      sources.filterMap (warning? f)) := by
  -- on the texts: one that is harmless adds a rule or a warning to what the others give
  induction sources with
  | nil => rfl
  | cons s sources ih =>
    obtain ⟨hs, hrest⟩ := List.forall_mem_cons.1 h
    cases hcompile : compile f s with
    | ok c =>
      have hsome : compiled? f s = some c := compiled?_eq_some_iff.2 hcompile
      have hsilent : warning? f s = none := by rw [warning?, hcompile]
      rw [ofSources_cons_of_ok hcompile, ih hrest, List.filterMap_cons_some hsome,
        List.filterMap_cons_none hsilent]
      rfl
    | error e =>
      have hnone : compiled? f s = none := by
        rw [compiled?, hcompile]
        rfl
      have hwarned : warning? f s = some (dropped s (e.message s)) := by rw [warning?, hcompile]
      rw [ofSources_cons_of_malformed hcompile (hs e hcompile), ih hrest,
        List.filterMap_cons_none hnone, List.filterMap_cons_some hwarned]
      rfl

/-- **The first text that is not harmless** stops the making of rules. -/
theorem ofSources_of_first_fault (hbefore : ∀ s ∈ before, Harmless f s)
    (he : compile f s = .error e) (hfatal : e.isMalformed = false) :
    ofSources f (before ++ s :: after) = .error e := by
  -- what is found before the first fault is lost with it
  induction before with
  | nil => exact ofSources_cons_of_error he hfatal
  | cons t before ih =>
    obtain ⟨ht, hrest⟩ := List.forall_mem_cons.1 hbefore
    cases hcompile : compile f t with
    | ok c =>
      rw [List.cons_append, ofSources_cons_of_ok hcompile, ih hrest]
      rfl
    | error e' =>
      rw [List.cons_append, ofSources_cons_of_malformed hcompile (ht e' hcompile), ih hrest]
      rfl

/-- All texts are harmless, or there is a first one that is not. -/
theorem harmless_or_first_fault (f : Facilities) (sources : List String) :
    (∀ s ∈ sources, Harmless f s) ∨
      ∃ before s after e, sources = before ++ s :: after ∧ (∀ t ∈ before, Harmless f t) ∧
        compile f s = .error e ∧ e.isMalformed = false := by
  induction sources with
  | nil => exact .inl (List.forall_mem_nil _)
  | cons s sources ih =>
    by_cases hs : Harmless f s
    · rcases ih with hall | ⟨before, t, after, e, rfl, hbefore, ht⟩
      · exact .inl (List.forall_mem_cons.2 ⟨hs, hall⟩)
      · exact .inr ⟨s :: before, t, after, e, rfl, List.forall_mem_cons.2 ⟨hs, hbefore⟩, ht⟩
    · unfold Harmless at hs
      push Not at hs
      obtain ⟨e, he, hfatal⟩ := hs
      exact .inr ⟨[], s, sources, e, rfl, List.forall_mem_nil _, he, Bool.eq_false_iff.2 hfatal⟩

/-- **Rules are made** just when all texts are harmless. -/
theorem ofSources_eq_ok_iff : ofSources f sources = .ok (rules, log) ↔
    (∀ s ∈ sources, Harmless f s) ∧ rules = (sources.filterMap (compiled? f)).map .pattern ∧
      log = sources.filterMap (warning? f) := by
  rcases harmless_or_first_fault f sources with
    hall | ⟨before, s, after, e, rfl, hbefore, he, hfatal⟩
  · rw [ofSources_of_harmless hall, Except.ok.injEq, Prod.mk.injEq, eq_comm, and_iff_right hall,
      @eq_comm _ rules, @eq_comm _ log]
  · rw [ofSources_of_first_fault hbefore he hfatal]
    constructor
    · intro h
      cases h
    · intro h
      have hmalformed := h.1 s (by simp) e he
      rw [hfatal] at hmalformed
      cases hmalformed

/-- **No rules are made** just when a text has an error that is not passed over, and the first such
    error is the outcome. -/
theorem ofSources_eq_error_iff : ofSources f sources = .error e ↔
    ∃ before s after, sources = before ++ s :: after ∧ (∀ t ∈ before, Harmless f t) ∧
      compile f s = .error e ∧ e.isMalformed = false := by
  constructor
  · intro h
    rcases harmless_or_first_fault f sources with
      hall | ⟨before, s, after, e', rfl, hbefore, he, hfatal⟩
    · rw [ofSources_of_harmless hall] at h
      cases h
    · rw [ofSources_of_first_fault hbefore he hfatal, Except.error.injEq] at h
      subst h
      exact ⟨before, s, after, rfl, hbefore, he, hfatal⟩
  · intro h
    obtain ⟨before, s, after, rfl, hbefore, he, hfatal⟩ := h
    exact ofSources_of_first_fault hbefore he hfatal

/-- Texts that give the same rules still do so with one text more before them, whatever their logs
    are. -/
theorem map_fst_congr {x y : Except PatternError (List NameRule × List LogEntry)}
    (rule : List NameRule → List NameRule) (entry : List LogEntry → List LogEntry)
    (h : x.map Prod.fst = y.map Prod.fst) :
    (x.map fun found => (rule found.1, entry found.2)).map Prod.fst =
      (y.map fun found => (rule found.1, entry found.2)).map Prod.fst := by
  have hsplit : ∀ z : Except PatternError (List NameRule × List LogEntry),
      (z.map fun found => (rule found.1, entry found.2)).map Prod.fst =
        (z.map Prod.fst).map rule := by
    intro z
    cases z <;> rfl
  rw [hsplit, hsplit, h]

/-- **A malformed text more,** wherever it stands, changes no rule. -/
theorem ofSources_insert (before after : List String) (h : Malformed f s) :
    (ofSources f (before ++ s :: after)).map Prod.fst =
      (ofSources f (before ++ after)).map Prod.fst := by
  -- on the texts before: each one does the same on both sides, and the log may differ all along
  induction before with
  | nil =>
    obtain ⟨e, he, hmalformed⟩ := h
    rw [List.nil_append, List.nil_append, ofSources_cons_of_malformed he hmalformed]
    cases ofSources f after <;> rfl
  | cons t before ih =>
    rw [List.cons_append, List.cons_append]
    rcases compile_cases f t with ⟨c, hc⟩ | ⟨e, he, hmalformed⟩ | ⟨e, he, hfatal⟩
    · rw [ofSources_cons_of_ok hc, ofSources_cons_of_ok hc]
      exact map_fst_congr (.pattern c :: ·) id ih
    · rw [ofSources_cons_of_malformed he hmalformed, ofSources_cons_of_malformed he hmalformed]
      exact map_fst_congr id (dropped t (e.message t) :: ·) ih
    · rw [ofSources_cons_of_error he hfatal, ofSources_cons_of_error he hfatal]

/-! ## What the rules say -/

/-- Some rule holds of a name just when a text writes a pattern that matches. -/
theorem anyHolds_iff (h : ofSources f sources = .ok (rules, log)) (name : String) :
    anyHolds rules name = true ↔ ∃ s ∈ sources, Matches f s name := by
  obtain ⟨-, rfl, -⟩ := ofSources_eq_ok_iff.1 h
  unfold anyHolds Matches
  rw [List.any_map, List.any_eq_true]
  simp only [List.mem_filterMap, compiled?_eq_some_iff, Function.comp_apply, holds]
  constructor
  · intro h
    obtain ⟨c, ⟨s, hs, hc⟩, hfound⟩ := h
    exact ⟨s, hs, c, hc, hfound⟩
  · intro h
    obtain ⟨s, hs, c, hc, hfound⟩ := h
    exact ⟨c, ⟨s, hs, hc⟩, hfound⟩

/-- A list of inclusions with no rule includes nothing, as no rule holds then. -/
theorem includes_eq_anyHolds (rules : List NameRule) (name : String) :
    includes rules name = anyHolds rules name := by
  cases rules <;> rfl

/-! ## Selections -/

theorem exists_log_insert (before after : List String) (h : Malformed f s) :
    (∃ log, ofSources f (before ++ s :: after) = .ok (rules, log)) ↔
      ∃ log, ofSources f (before ++ after) = .ok (rules, log) := by
  have hfirst : ∀ x : Except PatternError (List NameRule × List LogEntry),
      (∃ log, x = .ok (rules, log)) ↔ x.map Prod.fst = .ok rules := by
    intro x
    cases x <;> simp [Except.map, Prod.ext_iff]
  rw [hfirst, hfirst, ofSources_insert before after h]

/-- **A malformed inclusion more** selects the same. -/
theorem selects_insert_included (before after : List String) (h : Malformed f s) :
    Selects f fs { settings with includePatterns := before ++ s :: after } root selection ↔
      Selects f fs { settings with includePatterns := before ++ after } root selection := by
  constructor
  · intro hselects
    exact ⟨hselects.extensions, (exists_log_insert before after h).1 hselects.included,
      hselects.excluded⟩
  · intro hselects
    exact ⟨hselects.extensions, (exists_log_insert before after h).2 hselects.included,
      hselects.excluded⟩

/-- **A malformed exclusion more** selects the same. -/
theorem selects_insert_excluded (before after : List String) (h : Malformed f s) :
    Selects f fs { settings with excludePatterns := before ++ s :: after } root selection ↔
      Selects f fs { settings with excludePatterns := before ++ after } root selection := by
  constructor
  · intro hselects
    obtain ⟨patterns, log, globs, ignoreLog, hpatterns, hglobs⟩ := hselects.excluded
    obtain ⟨log', hpatterns'⟩ := (exists_log_insert before after h).1 ⟨log, hpatterns⟩
    exact ⟨hselects.extensions, hselects.included, patterns, log', globs, ignoreLog, hpatterns',
      hglobs⟩
  · intro hselects
    obtain ⟨patterns, log, globs, ignoreLog, hpatterns, hglobs⟩ := hselects.excluded
    obtain ⟨log', hpatterns'⟩ := (exists_log_insert before after h).2 ⟨log, hpatterns⟩
    exact ⟨hselects.extensions, hselects.included, patterns, log', globs, ignoreLog, hpatterns',
      hglobs⟩

/-- **Texts that are no patterns.** Rules are made unless a text has an error that is not passed
    over; the first such error is then the outcome, and the text shows it: a number that is too
    large or has too many digits, the letters of both alphabets, or a length that leaves room for
    groups nested too deeply. The rules that are made are the patterns among the texts, in their
    order; there is one warning for each other text, in the same order; and a rule holds of a name
    just when a text writes a pattern that matches. A malformed text more, wherever it stands among
    the inclusions or the exclusions, makes no other rules and no other selection. -/
theorem malformed_sources_are_dropped (f : Facilities) (sources : List String) :
    ((∃ rules log, ofSources f sources = .ok (rules, log)) ↔ ∀ s ∈ sources, Harmless f s) ∧
    (∀ e, ofSources f sources = .error e ↔
      ∃ before s after, sources = before ++ s :: after ∧ (∀ t ∈ before, Harmless f t) ∧
        compile f s = .error e ∧ e.isMalformed = false) ∧
    (∀ s e, compile f s = .error e → e.isMalformed = false → ShownBy f.room s.toList e) ∧
    (∀ rules log, ofSources f sources = .ok (rules, log) →
      rules = (sources.filterMap (compiled? f)).map .pattern ∧
      log = sources.filterMap (warning? f) ∧
      ∀ name, (anyHolds rules name = true ↔ ∃ s ∈ sources, Matches f s name) ∧
        (includes rules name = true ↔ ∃ s ∈ sources, Matches f s name)) ∧
    (∀ before after bad, sources = before ++ after → Malformed f bad →
      (ofSources f (before ++ bad :: after)).map Prod.fst = (ofSources f sources).map Prod.fst ∧
      ∀ (fs : FileStore) (settings : Settings) (root : String) (selection : Selection),
        (Selects f fs { settings with includePatterns := before ++ bad :: after } root selection ↔
          Selects f fs { settings with includePatterns := sources } root selection) ∧
        (Selects f fs { settings with excludePatterns := before ++ bad :: after } root selection ↔
          Selects f fs { settings with excludePatterns := sources } root selection)) := by
  refine ⟨?_, fun e => ofSources_eq_error_iff, ?_, ?_, ?_⟩
  · -- all harmless, or a first fault
    constructor
    · intro h
      obtain ⟨rules, log, h⟩ := h
      exact (ofSources_eq_ok_iff.1 h).1
    · intro hall
      exact ⟨_, _, ofSources_of_harmless hall⟩
  · intro s e he hfatal
    -- an error that is not passed over is no fault of the syntax, so the text shows it
    exact (Pattern.shown_of_compile he).resolve_left (by rw [hfatal]; exact Bool.false_ne_true)
  · intro rules log h
    obtain ⟨-, hrules, hlog⟩ := ofSources_eq_ok_iff.1 h
    refine ⟨hrules, hlog, fun name => ⟨anyHolds_iff h name, ?_⟩⟩
    rw [includes_eq_anyHolds, anyHolds_iff h name]
  · -- the rules are the same, so what they select is
    intro before after bad heq hbad
    subst heq
    exact ⟨ofSources_insert before after hbad, fun fs settings root selection =>
      ⟨selects_insert_included before after hbad, selects_insert_excluded before after hbad⟩⟩

/-- A number of repetitions that is too large is not passed over, and no rule is made of the texts
    beside it. -/
theorem no_rules_beside_large_number :
    ofSources ⟨fun _ => none, 980⟩ ["x\x7b4294967295\x7d", "a"] = .error .repetitionTooLarge := by
  have herror :
      compile ⟨fun _ => none, 980⟩ "x\x7b4294967295\x7d" = .error .repetitionTooLarge := by
    with_unfolding_all rfl
  exact ofSources_cons_of_error herror rfl

end SourceCensus.NameRule
