import SourceCensus.Log.Router
import Mathlib.Data.List.Induction

/-! # Setting the log up again and again

    A call of `configure` that goes through takes away the handler of the one before and leaves one
    of three things: the plain console handler when setting up fails, a queue when there are
    outlets, or nothing when the settings ask for none (`Outcome`). So there is never more than one
    handler of ours, and where there is one, records reach an outlet (`Audible`).

    A call that leaves nothing does not say so in the state: a router that counted as configured
    goes on to. From then on every call that is not forced does nothing, and the router is without
    a handler. `Muted` says of a list of calls that this has happened, and
    `has_handler_iff_not_muted` says that it is the only way for a configured router to be without
    one.
-/

namespace SourceCensus.Router

/-! ## Calls -/

/-- One call that sets the log up. -/
structure SetUp where
  /-- What is asked for. -/
  settings : LogSettings
  /-- Whether it is done again when it was done before. -/
  force : Bool

/-- One call. -/
def setUp (r : Router) (c : SetUp) : Router := r.configure c.settings c.force

/-- One call after the other. -/
def run (r : Router) (calls : List SetUp) : Router := calls.foldl setUp r

/-- No call has been made yet. Any handlers are those of others. -/
structure Fresh (r : Router) : Prop where
  ours : r.ours = []
  listener : r.listener = none
  configured : r.configured = false

variable {r s : Router} {calls : List SetUp} {c : SetUp} {record : LogRecord}

theorem run_concat (r : Router) (calls : List SetUp) (c : SetUp) :
    r.run (calls ++ [c]) = (r.run calls).setUp c := by
  unfold run
  rw [List.foldl_append]
  rfl

/-! ## Handlers of ours -/

/-- One handler of ours behind those of others is the only one. -/
theorem ours_of_handlers {h : Handler} (hhandlers : s.handlers = r.others ++ [h])
    (hours : h.isOurs = true) : s.ours = [h] := by
  have hothers : r.others.filter (·.isOurs) = [] := by
    unfold others
    rw [List.filter_filter]
    simp
  unfold ours
  rw [hhandlers, List.filter_append, hothers, List.nil_append, List.filter_cons_of_pos hours,
    List.filter_nil]

/-- The outlets behind a handler. -/
def behind (listener : Option Listener) : Handler → List Outlet
  | .foreign _ => []
  | .plain => [plainOutlet]
  | .queue id =>
    match listener with
    | none => []
    | some l => if l.queue = id then l.outlets else []

/-- The outlets that records reach. -/
def reached (r : Router) : List Outlet := r.handlers.flatMap (behind r.listener)

/-- A handler passes a record on to the outlets behind it, one after the other. -/
theorem handle_eq (listener : Option Listener) (record : LogRecord) (sinks : Sinks) (h : Handler) :
    handle listener record sinks h =
      (behind listener h).foldl (fun sinks o => o.write record sinks) sinks := by
  cases h with
  | foreign => rfl
  | plain => rfl
  | queue id =>
    cases listener with
    | none => rfl
    | some l =>
      simp only [handle, behind]
      split <;> rfl

/-- **A record is written by every outlet that it reaches.** -/
theorem sinks_log (hpos : 0 < record.level) (hlevel : r.level ≤ record.level)
    (hhandlers : r.handlers ≠ []) :
    (r.log record).sinks = r.reached.foldl (fun sinks o => o.write record sinks) r.sinks := by
  have hpass : ¬ (record.level ≤ 0 || record.level < r.level) = true := by
    simp only [Bool.or_eq_true, decide_eq_true_eq]
    omega
  have hany : ¬ r.handlers.isEmpty = true := by simpa using hhandlers
  unfold log
  rw [if_neg hpass, if_neg hany]
  show r.handlers.foldl (handle r.listener record) r.sinks = _
  unfold reached
  rw [List.foldl_flatMap]
  congr 1
  funext sinks h
  exact handle_eq r.listener record sinks h

/-- Handlers of others reach no outlet of ours. -/
theorem reached_eq (r : Router) : r.reached = r.ours.flatMap (behind r.listener) := by
  unfold reached ours
  induction r.handlers with
  | nil => rfl
  | cons h hs ih =>
    rw [List.flatMap_cons, List.filter_cons, ih]
    cases h with
    | foreign => rfl
    | plain => rfl
    | queue => rfl

/-! ## What a call leaves -/

/-- The outlets that the settings of a call come to, or `none` when setting up fails. -/
def found (r : Router) (c : SetUp) : Option (List Outlet) :=
  (makeOutlets r.sinks c.settings (Level.ofSetting c.settings.level)).2

/-- The router without the handler of a call before, and with what making the outlets has
    written. -/
def swept (r : Router) (c : SetUp) : Router :=
  { r.clear (Level.ofSetting c.settings.level) with
    sinks := (makeOutlets r.sinks c.settings (Level.ofSetting c.settings.level)).1 }

/-- **What a call can do,** with a case for each way out of it. -/
inductive Outcome (r : Router) (c : SetUp) (s : Router) : Prop where
  /-- It was done before, and nothing changes. -/
  | kept (hconfigured : r.configured = true) (hforce : c.force = false) (hsame : s = r)
  /-- Setting up fails. -/
  | failed (hthrough : r.configured = true → c.force = true) (hfound : r.found c = none)
      (hours : s.ours = [.plain]) (hconfigured : s.configured = r.configured)
  /-- There are no outlets. -/
  | empty (hthrough : r.configured = true → c.force = true) (hfound : r.found c = some [])
      (hours : s.ours = []) (hconfigured : s.configured = r.configured)
  /-- A queue is attached. -/
  | attached {o : Outlet} {outlets : List Outlet} (hthrough : r.configured = true → c.force = true)
      (hfound : r.found c = some (o :: outlets)) (hours : s.ours = [.queue r.queues])
      (hlistener : s.listener = some ⟨r.queues, o :: outlets⟩) (hconfigured : s.configured = true)

/-- Logging a record changes no handler. -/
theorem log_same (r : Router) (record : LogRecord) :
    (r.log record).handlers = r.handlers ∧ (r.log record).configured = r.configured := by
  unfold log
  split
  · exact ⟨rfl, rfl⟩
  · split
    · split <;> exact ⟨rfl, rfl⟩
    · exact ⟨rfl, rfl⟩

/-- Falling back leaves the plain console handler behind those of others. -/
theorem fallBack_same (r : Router) :
    (fallBack r).handlers = r.others ++ [.plain] ∧ (fallBack r).configured = r.configured :=
  log_same _ _

theorem ours_clear (r : Router) (level : Int) : (r.clear level).ours = [] := by
  unfold ours clear others
  rw [List.filter_filter]
  simp

/-- A call that goes through does one of three things to the router without its old handler. -/
theorem setUp_eq (hthrough : r.configured = true → c.force = true) :
    r.setUp c = match r.found c with
      | none => fallBack (r.swept c)
      | some [] => r.swept c
      | some outlets => attach (r.swept c) outlets := by
  have hgo : ¬ (r.configured && !c.force) = true := by simpa using hthrough
  unfold setUp configure
  rw [if_neg hgo]
  unfold found swept
  dsimp only [clear]
  generalize makeOutlets r.sinks c.settings (Level.ofSetting c.settings.level) = made
  obtain ⟨sinks, outlets⟩ := made
  rcases outlets with _ | _ | _ <;> rfl

/-- **One call,** whatever the state before it. -/
theorem outcome_setUp (r : Router) (c : SetUp) : Outcome r c (r.setUp c) := by
  by_cases hkept : r.configured = true ∧ c.force = false
  · obtain ⟨hconfigured, hforce⟩ := hkept
    refine .kept hconfigured hforce ?_
    unfold setUp configure
    rw [if_pos (by simp [hconfigured, hforce])]
  · have hthrough : r.configured = true → c.force = true := by simpa using hkept
    rw [setUp_eq hthrough]
    cases hfound : r.found c with
    | none =>
      obtain ⟨hhandlers, hconfigured⟩ := fallBack_same (r.swept c)
      exact .failed hthrough hfound (ours_of_handlers hhandlers rfl) hconfigured
    | some outlets =>
      cases outlets with
      | nil =>
        -- nothing is put in the place of the old handler, and the flag stays as it was
        exact .empty hthrough hfound (ours_clear r (Level.ofSetting c.settings.level)) rfl
      | cons o outlets => exact .attached hthrough hfound (ours_of_handlers rfl rfl) rfl rfl

/-- With console output there is an outlet, or setting up fails. -/
theorem found_ne_nil (hconsole : c.settings.console.truthy = true) : r.found c ≠ some [] := by
  unfold found makeOutlets
  split
  · simp only [if_pos hconsole]
    split <;> simp
  · simp

/-! ## Runs of calls -/

/-- There is no handler of ours, or there is one and records reach an outlet. -/
def Audible (r : Router) : Prop := r.ours = [] ∨ r.ours.length = 1 ∧ r.reached ≠ []

theorem Fresh.audible (h : r.Fresh) : r.Audible := .inl h.ours

/-- A call leaves the one handler that it attaches, and that one is heard. -/
theorem Audible.setUp (h : r.Audible) (c : SetUp) : (r.setUp c).Audible := by
  cases outcome_setUp r c with
  | kept _ _ hsame => rwa [hsame]
  | failed _ _ hours _ =>
    right
    rw [reached_eq, hours]
    exact ⟨rfl, by simp [behind]⟩
  | empty _ _ hours _ => exact .inl hours
  | attached _ _ hours hlistener _ =>
    right
    rw [reached_eq, hours, hlistener]
    exact ⟨rfl, by simp [behind]⟩

/-- **A run of calls** never leaves more than one handler, and never one that is not heard. -/
theorem Audible.run (h : r.Audible) (calls : List SetUp) : (r.run calls).Audible := by
  induction calls using List.reverseRecOn with
  | nil => exact h
  | append_singleton calls c ih =>
    rw [run_concat]
    exact ih.setUp c

theorem Audible.length_le_one (h : r.Audible) : r.ours.length ≤ 1 := by
  rcases h with hours | ⟨hone, -⟩
  · simp [hours]
  · omega

theorem Audible.length_eq_one_iff (h : r.Audible) : r.ours.length = 1 ↔ r.ours ≠ [] := by
  have hle := h.length_le_one
  rw [← List.length_pos_iff]
  omega

theorem Audible.reached_iff (h : r.Audible) : r.ours.length = 1 ↔ r.reached ≠ [] := by
  rcases h with hours | ⟨hone, hreached⟩
  · rw [reached_eq, hours]
    simp
  · exact iff_of_true hone hreached

/-! ## Muted routers -/

/-- **The way to lose the handler:** a forced call while the router counts as configured comes to
    no outlets, and no call after it is forced. -/
def Muted (r : Router) (calls : List SetUp) : Prop :=
  ∃ before c after, calls = before ++ c :: after ∧ (r.run before).configured = true ∧
    c.force = true ∧ (r.run before).found c = some [] ∧ ∀ d ∈ after, d.force = false

/-- One more call mutes the router, or it is not forced and leaves it as it is. -/
theorem muted_concat : r.Muted (calls ++ [c]) ↔
    (c.force = false ∧ r.Muted calls) ∨
      ((r.run calls).configured = true ∧ c.force = true ∧ (r.run calls).found c = some []) := by
  constructor
  · rintro ⟨before, d, after, heq, hconfigured, hforce, hfound, hafter⟩
    rcases List.eq_nil_or_concat after with rfl | ⟨after, e, rfl⟩
    · -- the last call is the one that mutes
      obtain ⟨rfl, hlast⟩ := List.append_inj' heq rfl
      cases hlast
      exact .inr ⟨hconfigured, hforce, hfound⟩
    · -- an earlier call mutes, and the last one is not forced
      rw [List.concat_eq_append, ← List.cons_append, ← List.append_assoc] at heq
      obtain ⟨rfl, hlast⟩ := List.append_inj' heq rfl
      cases hlast
      left
      refine ⟨hafter c (by simp), before, d, after, rfl, hconfigured, hforce, hfound, ?_⟩
      intro e he
      exact hafter e (by simp [he])
  · rintro (⟨hforce, before, d, after, rfl, hconfigured, hd, hfound, hafter⟩ | h)
    · -- the calls after the one that mutes are those before and one more
      refine ⟨before, d, after ++ [c], by simp, hconfigured, hd, hfound, ?_⟩
      intro e he
      rcases List.mem_append.1 he with he | he
      · exact hafter e he
      · rw [List.mem_singleton.1 he]
        exact hforce
    · exact ⟨calls, c, [], rfl, h.1, h.2.1, h.2.2, by simp⟩

/-- **A configured router is without a handler exactly when it was muted.** -/
theorem muted_iff (h : r.Fresh) (calls : List SetUp) :
    r.Muted calls ↔ (r.run calls).configured = true ∧ (r.run calls).ours = [] := by
  induction calls using List.reverseRecOn with
  | nil =>
    show r.Muted [] ↔ r.configured = true ∧ r.ours = []
    rw [h.configured]
    simp [Muted]
  | append_singleton calls c ih =>
    rw [muted_concat, run_concat, ih]
    -- a call that goes through does so forced, or the router did not count as configured
    have hgone : ((r.run calls).configured = true → c.force = true) →
        ¬ (c.force = false ∧ (r.run calls).configured = true ∧ (r.run calls).ours = []) := by
      rintro hthrough ⟨hforce, hconfigured, -⟩
      rw [hthrough hconfigured] at hforce
      cases hforce
    cases outcome_setUp (r.run calls) c with
    | kept hconfigured hforce hsame => simp [hsame, hforce]
    | failed hthrough hfound hours hconfigured =>
      rw [or_iff_right (hgone hthrough), hfound, hours]
      simp
    | empty hthrough hfound hours hconfigured =>
      -- only here is the handler gone, which counts as muted if the flag was set
      rw [or_iff_right (hgone hthrough), hfound, hours, hconfigured]
      simpa using hthrough
    | attached hthrough hfound hours hlistener hconfigured =>
      rw [or_iff_right (hgone hthrough), hfound, hours]
      simp

/-! ## The one handler -/

/-- **A configured router has its handler, unless it was muted.** There is at most one handler of
    ours, and where there is one, records reach an outlet. A router that counts as configured has
    the one exactly when no call has muted it. So a call with console output leaves the one
    exactly when it is forced or no call before has muted the router. -/
theorem has_handler_iff_not_muted (h : r.Fresh) (calls : List SetUp) :
    (r.run calls).ours.length ≤ 1 ∧
    ((r.run calls).ours.length = 1 ↔ (r.run calls).reached ≠ []) ∧
    ((r.run calls).configured = true → ((r.run calls).ours.length = 1 ↔ ¬ r.Muted calls)) ∧
    ∀ c : SetUp, c.settings.console.truthy = true →
      (((r.run calls).setUp c).ours.length = 1 ↔ c.force = true ∨ ¬ r.Muted calls) := by
  have haudible : (r.run calls).Audible := h.audible.run calls
  have hconfigured_iff : (r.run calls).configured = true →
      ((r.run calls).ours.length = 1 ↔ ¬ r.Muted calls) := by
    intro hconfigured
    rw [muted_iff h, haudible.length_eq_one_iff]
    simp [hconfigured]
  -- a call that goes through is forced, or the router did not count as configured
  have hright : ∀ c : SetUp, ((r.run calls).configured = true → c.force = true) →
      c.force = true ∨ ¬ r.Muted calls := by
    intro c hthrough
    by_cases hforce : c.force = true
    · exact .inl hforce
    · right
      intro hmuted
      exact hforce (hthrough ((muted_iff h calls).1 hmuted).1)
  refine ⟨haudible.length_le_one, haudible.reached_iff, hconfigured_iff, ?_⟩
  -- what the call does decides, and it finds an outlet, as it asks for the console
  intro c hconsole
  cases outcome_setUp (r.run calls) c with
  | kept hconfigured hforce hsame =>
    rw [hsame, hconfigured_iff hconfigured, hforce]
    simp
  | failed hthrough hfound hours hconfigured =>
    rw [hours]
    exact iff_of_true rfl (hright c hthrough)
  | empty hthrough hfound hours hconfigured => exact absurd hfound (found_ne_nil hconsole)
  | attached hthrough hfound hours hlistener hconfigured =>
    rw [hours]
    exact iff_of_true rfl (hright c hthrough)

/-- A router before anything is set up, in an empty folder. -/
def sampleRouter : Router := initial ⟨.emptyFolder, []⟩

/-- The log is set up with its defaults, and then again with no outlet at all. -/
def mutingCalls : List SetUp := [⟨{}, false⟩, ⟨{ console := .bool false }, true⟩]

theorem fresh_sampleRouter : sampleRouter.Fresh := ⟨by decide, by decide, by decide⟩

theorem has_handler_iff_not_muted_mutingCalls :
    sampleRouter.Fresh ∧ (sampleRouter.run mutingCalls).ours.length ≤ 1 ∧
    ((sampleRouter.run mutingCalls).ours.length = 1 ↔ (sampleRouter.run mutingCalls).reached ≠ []) ∧
    ((sampleRouter.run mutingCalls).configured = true →
      ((sampleRouter.run mutingCalls).ours.length = 1 ↔ ¬ sampleRouter.Muted mutingCalls)) ∧
    ∀ c : SetUp, c.settings.console.truthy = true →
      (((sampleRouter.run mutingCalls).setUp c).ours.length = 1 ↔
        c.force = true ∨ ¬ sampleRouter.Muted mutingCalls) :=
  ⟨fresh_sampleRouter, has_handler_iff_not_muted fresh_sampleRouter mutingCalls⟩

/-- A router counts as configured and has no handler, and a call that asks for console output
    leaves it so. -/
theorem configured_without_handler :
    sampleRouter.Fresh ∧ (sampleRouter.run mutingCalls).configured = true ∧
      (sampleRouter.run mutingCalls).ours = [] ∧
      ((sampleRouter.run mutingCalls).setUp ⟨{}, false⟩).ours = [] := by
  refine ⟨fresh_sampleRouter, ?_⟩
  decide +kernel

end SourceCensus.Router
