import SourceCensus.Proofs.Config.Settings

/-! # When a lenient check stops

    A lenient check puts a default in the place of what it cannot use, and goes on. One thing it
    does not go on after: a count that is given as a text of digits is read as a number, and of
    the digits only the decimal ones can be read. `lenient_check_returns_iff` says that nothing
    else stops a lenient check, and `lenient_check_stops_at_superscript` that this does.
-/

namespace SourceCensus.Config

open Json (Value Members)

variable {defaults : Settings} {ms : Members} {text name : String}

/-- The names of the counts. -/
def countNames : List String := [Settings.maxNodeCountName, Settings.maxWorkersName]

/-- A configuration gives one of its counts as a stranded text. -/
def StrandedCount (v : Value) (text : String) : Prop :=
  ∃ (ms : Members) (name : String) (w : Value),
    v = .object ms ∧ name ∈ countNames ∧ (Members.ofList ms).get? name = some w ∧ Stranded w text

/-! ## The members of an object -/

/-- The default of a count is no text, so a stranded count was given as such. -/
theorem stranded_given_iff {n : Int} (hdefault : (name, .int n) ∈ defaults.toMembers) :
    Stranded (given ms defaults name) text ↔ ∃ w, ms.get? name = some w ∧ Stranded w text := by
  unfold given
  rw [Settings.get?_toMembers hdefault]
  cases ms.get? name with
  | none => simp [Stranded]
  | some w => simp

/-- One of the two counts of an object is stranded. -/
theorem strandedCount_object_iff (defaults : Settings) :
    StrandedCount (.object ms) text ↔
      Stranded (given (Members.ofList ms) defaults Settings.maxNodeCountName) text ∨
        Stranded (given (Members.ofList ms) defaults Settings.maxWorkersName) text := by
  have hnodes : (Settings.maxNodeCountName, .int defaults.maxNodeCount) ∈ defaults.toMembers := by
    simp [Settings.toMembers]
  have hworkers : (Settings.maxWorkersName, .int defaults.maxWorkers) ∈ defaults.toMembers := by
    simp [Settings.toMembers]
  rw [stranded_given_iff hnodes, stranded_given_iff hworkers]
  constructor
  · rintro ⟨_, name, w, ⟨⟩, hname, hget, hstranded⟩
    unfold countNames at hname
    rw [List.mem_pair] at hname
    rcases hname with rfl | rfl
    · exact .inl ⟨w, hget, hstranded⟩
    · exact .inr ⟨w, hget, hstranded⟩
  · rintro (⟨w, hget, hstranded⟩ | ⟨w, hget, hstranded⟩)
    · exact ⟨ms, _, w, rfl, List.mem_cons_self, hget, hstranded⟩
    · exact ⟨ms, _, w, rfl, List.mem_cons_of_mem _ List.mem_cons_self, hget, hstranded⟩

/-- A lenient check of an object goes through when no count is stranded. -/
theorem passes_checkMembers
    (hnodes : ∀ text, ¬ Stranded (given ms defaults Settings.maxNodeCountName) text)
    (hworkers : ∀ text, ¬ Stranded (given ms defaults Settings.maxWorkersName) text) :
    Passes (checkMembers false defaults ms) := by
  refine passes_checkText.bind fun inputPath => ?_
  refine passes_checkText.bind fun outputPath => ?_
  refine passes_checkBool.bind fun respectIgnoreFile => ?_
  refine (passes_checkCount hnodes).bind fun maxNodeCount => ?_
  refine (passes_checkCount hworkers).bind fun maxWorkers => ?_
  refine passes_checkTexts.bind fun texts => ?_
  refine passes_checkTexts.bind fun includePatterns => ?_
  refine passes_checkTexts.bind fun excludePatterns => ?_
  exact passes_checkDots.bind fun dotted => passes_pure _

/-- Two counts that are checked one after the other: the first one that is stranded stops a
    lenient check, whatever comes after them. -/
theorem stops_counts {α : Type} {field field' : String} {fallback fallback' : Int} {v w : Value}
    (h : ∃ text, Stranded v text ∨ Stranded w text) :
    ∃ text, (Stranded v text ∨ Stranded w text) ∧
      ∀ rest : Int → Int → Checking α, Stops (.unreadable text) (do
        let n ← checkCount false field fallback v
        let m ← checkCount false field' fallback' w
        rest n m) := by
  by_cases hfirst : ∃ text, Stranded v text
  · obtain ⟨text, hfirst⟩ := hfirst
    exact ⟨text, .inl hfirst, fun rest => (stops_checkCount hfirst).bind⟩
  · rw [not_exists] at hfirst
    obtain ⟨text, h⟩ := h
    have hsecond := h.resolve_left (hfirst text)
    refine ⟨text, .inr hsecond, ?_⟩
    intro rest
    exact (passes_checkCount hfirst).stops fun n => (stops_checkCount hsecond).bind

/-- A lenient check of an object stops at a stranded count. -/
theorem stops_checkMembers
    (h : ∃ text, Stranded (given ms defaults Settings.maxNodeCountName) text ∨
      Stranded (given ms defaults Settings.maxWorkersName) text) :
    ∃ text, (Stranded (given ms defaults Settings.maxNodeCountName) text ∨
        Stranded (given ms defaults Settings.maxWorkersName) text) ∧
      Stops (.unreadable text) (checkMembers false defaults ms) := by
  obtain ⟨text, hstranded, hstops⟩ := stops_counts h
  refine ⟨text, hstranded, ?_⟩
  -- the counts come after the paths and the ignore file, which stop no lenient check
  refine passes_checkText.stops fun inputPath => ?_
  refine passes_checkText.stops fun outputPath => ?_
  refine passes_checkBool.stops fun respectIgnoreFile => ?_
  exact hstops _

/-! ## The whole check -/

/-- **A lenient check does one of two things:** it gives a configuration, and no count is stranded,
    or it stops at the text of a stranded count. -/
theorem lenient_check_cases (currentFolder : String) (v : Value) :
    ((∃ checked, check false currentFolder v = .ok checked) ∧ ∀ text, ¬ StrandedCount v text) ∨
    ∃ text, StrandedCount v text ∧ check false currentFolder v = .error (.unreadable text) := by
  cases v with
  | object ms =>
    -- the settings of the object decide
    rw [check_object]
    by_cases h : ∃ text, StrandedCount (.object ms) text
    · right
      simp only [strandedCount_object_iff (Settings.default currentFolder)] at h ⊢
      obtain ⟨text, hstranded, hstops⟩ := stops_checkMembers h
      exact ⟨text, hstranded, by rw [hstops []]; rfl⟩
    · left
      rw [not_exists] at h
      refine ⟨?_, h⟩
      simp only [strandedCount_object_iff (Settings.default currentFolder), not_or] at h
      have hpasses := passes_checkMembers (fun text => (h text).1) fun text => (h text).2
      obtain ⟨settings, remarks, hrun⟩ := hpasses []
      exact ⟨_, by rw [hrun]; rfl⟩
  | _ =>
    -- a value that is no object has no counts, and the defaults are taken
    left
    refine ⟨⟨_, rfl⟩, ?_⟩
    rintro text ⟨ms, name, w, hobject, -⟩
    cases hobject

/-- **A lenient check gives a configuration, unless a count is given as a text of digits of which
    one has no place value.** In that case it stops at this text, and nothing else stops it,
    whatever the value is. -/
theorem lenient_check_returns_iff (currentFolder : String) (v : Value) :
    ((∃ checked, check false currentFolder v = .ok checked) ↔ ∀ text, ¬ StrandedCount v text) ∧
    ∀ fault, check false currentFolder v = .error fault →
      ∃ text, StrandedCount v text ∧ fault = .unreadable text := by
  rcases lenient_check_cases currentFolder v with
    ⟨⟨checked, hok⟩, hnone⟩ | ⟨text, hstranded, herror⟩
  · refine ⟨iff_of_true ⟨checked, hok⟩ hnone, ?_⟩
    intro fault hfault
    rw [hok] at hfault
    cases hfault
  · constructor
    · refine iff_of_false ?_ fun hnone => hnone text hstranded
      rintro ⟨checked, hok⟩
      rw [herror] at hok
      cases hok
    · intro fault hfault
      rw [herror] at hfault
      cases hfault
      exact ⟨text, hstranded, rfl⟩

/-- A lenient check stops at a superscript two, which is a digit and has no place value. -/
theorem lenient_check_stops_at_superscript :
    check false "/cwd" (.object [(Settings.maxNodeCountName, .string "²")]) =
      .error (.unreadable "²") := by
  rfl

end SourceCensus.Config
