import SourceCensus.Proofs.Log.SetUp

/-! # Handlers over many calls

    Setting the log up takes away no handler but the one that an earlier call put in place, and
    adds one at most.

    * **Others.** The handlers of others stay, in their order (`others_setUp`, `others_run`).
    * **Listener.** A listener runs exactly while the one handler of ours is the queue that it
      empties (`Attended`): a call that goes through stops the listener of the call before
      (`listener_eq_none`), and starts one only together with a new queue.

    `reconfiguration_is_clean` puts these together for any list of calls.
-/

namespace SourceCensus.Router

variable {r s : Router} {calls : List SetUp} {c : SetUp}

/-! ## Handlers of others -/

/-- One handler of ours behind those of others leaves the others as they were. -/
theorem others_of_handlers {h : Handler} (hhandlers : s.handlers = r.others ++ [h])
    (hours : h.isOurs = true) : s.others = r.others := by
  have hnone : [h].filter (!·.isOurs) = [] := by simp [hours]
  unfold others at hhandlers ⊢
  rw [hhandlers, List.filter_append, hnone, List.append_nil, List.filter_filter]
  simp only [Bool.and_self]

theorem others_clear (r : Router) (level : Int) : (r.clear level).others = r.others := by
  unfold clear others
  rw [List.filter_filter]
  simp only [Bool.and_self]

/-- **One call** leaves the handlers of others alone. -/
theorem others_setUp (r : Router) (c : SetUp) : (r.setUp c).others = r.others := by
  -- a call that goes through starts by taking away what is ours, and nothing else
  have hswept : (r.swept c).others = r.others := others_clear r (Level.ofSetting c.settings.level)
  cases outcome_setUp r c with
  | kept _ _ hsame => rw [hsame]
  | failed hthrough hfound _ _ =>
    rw [setUp_eq hthrough, hfound]
    exact (others_of_handlers (fallBack_same (r.swept c)).1 rfl).trans hswept
  | empty hthrough hfound _ _ =>
    rw [setUp_eq hthrough, hfound]
    exact hswept
  | attached hthrough hfound _ _ _ =>
    rw [setUp_eq hthrough, hfound]
    exact others_of_handlers rfl rfl

/-- **A run of calls** leaves the handlers of others alone. -/
theorem others_run (r : Router) (calls : List SetUp) : (r.run calls).others = r.others := by
  induction calls using List.reverseRecOn with
  | nil => rfl
  | append_singleton calls c ih =>
    rw [run_concat, others_setUp]
    exact ih

/-- Before the first call all handlers are those of others. -/
theorem Fresh.others_eq (h : r.Fresh) : r.others = r.handlers := by
  unfold others
  rw [List.filter_eq_self]
  intro x hx
  simpa using List.filter_eq_nil_iff.1 h.ours x hx

/-! ## The listener -/

theorem listener_log (r : Router) (record : LogRecord) : (r.log record).listener = r.listener := by
  unfold log
  split
  · rfl
  · split
    · split <;> rfl
    · rfl

/-- A call that goes through and attaches no queue leaves no listener behind. -/
theorem listener_eq_none (hthrough : r.configured = true → c.force = true)
    (hfound : r.found c = none ∨ r.found c = some []) : (r.setUp c).listener = none := by
  have hswept : (r.swept c).listener = none := rfl
  rw [setUp_eq hthrough]
  rcases hfound with hfound | hfound
  · rw [hfound]
    exact (listener_log _ _).trans hswept
  · rw [hfound]
    exact hswept

/-- **A queue and its listener** are there together: the one handler of ours is a queue exactly
    when a listener runs that empties this queue. -/
def Attended (r : Router) : Prop :=
  ∀ id, r.ours = [.queue id] ↔ ∃ l, r.listener = some l ∧ l.queue = id

/-- Without listener it is enough that the handler is no queue. -/
theorem attended_of_listener_eq_none (hlistener : r.listener = none)
    (hours : ∀ id, r.ours ≠ [.queue id]) : r.Attended := by
  intro id
  rw [hlistener]
  simpa using hours id

theorem Fresh.attended (h : r.Fresh) : r.Attended :=
  attended_of_listener_eq_none h.listener fun id => by simp [h.ours]

/-- A call stops the listener with the queue, and starts one with a new queue. -/
theorem Attended.setUp (h : r.Attended) (c : SetUp) : (r.setUp c).Attended := by
  cases outcome_setUp r c with
  | kept _ _ hsame => rwa [hsame]
  | failed hthrough hfound hours _ =>
    apply attended_of_listener_eq_none (listener_eq_none hthrough (.inl hfound))
    simp [hours]
  | empty hthrough hfound hours _ =>
    apply attended_of_listener_eq_none (listener_eq_none hthrough (.inr hfound))
    simp [hours]
  | attached _ _ hours hlistener _ =>
    -- the new listener empties the new queue
    intro id
    rw [hours, hlistener]
    simp

/-- **A run of calls** never leaves a listener without its queue or a queue without its listener. -/
theorem Attended.run (h : r.Attended) (calls : List SetUp) : (r.run calls).Attended := by
  induction calls using List.reverseRecOn with
  | nil => exact h
  | append_singleton calls c ih =>
    rw [run_concat]
    exact ih.setUp c

/-! ## Calls that are not forced -/

/-- A configured router stays as it is when a call is not forced. -/
theorem setUp_eq_self (hconfigured : r.configured = true) (hforce : c.force = false) :
    r.setUp c = r := by
  unfold setUp configure
  rw [if_pos (by simp [hconfigured, hforce])]

/-! ## Any list of calls -/

/-- **Setting the log up again is clean.** Whatever the calls ask for and whatever goes wrong in
    them: there is at most one handler of ours, the handlers of others are the ones from before
    the first call, a listener runs exactly while our handler is the queue that it empties, and
    once the router counts as configured a call that is not forced changes nothing. -/
theorem reconfiguration_is_clean (h : r.Fresh) (calls : List SetUp) :
    (r.run calls).ours.length ≤ 1 ∧
    (r.run calls).others = r.handlers ∧
    (∀ id, (r.run calls).ours = [.queue id] ↔
      ∃ l, (r.run calls).listener = some l ∧ l.queue = id) ∧
    ((r.run calls).configured = true →
      ∀ c : SetUp, c.force = false → (r.run calls).setUp c = r.run calls) := by
  refine ⟨(h.audible.run calls).length_le_one, ?_, h.attended.run calls, ?_⟩
  · rw [others_run, h.others_eq]
  · intro hconfigured c hforce
    exact setUp_eq_self hconfigured hforce

/-- A router with handlers of others, before anything is set up. -/
def sharedRouter : Router := (sampleRouter.addForeign 1).addForeign 2

/-- The log is set up, then by force with a template that has no field, which fails, then without
    force, and then by force as in the beginning. -/
def mixedCalls : List SetUp :=
  [⟨{}, false⟩, ⟨{ consoleTemplate := .string "no field" }, true⟩, ⟨{}, false⟩, ⟨{}, true⟩]

theorem reconfiguration_is_clean_mixedCalls :
    sharedRouter.Fresh ∧
    (sharedRouter.run mixedCalls).handlers = [.foreign 1, .foreign 2, .queue 1] ∧
    (sharedRouter.run mixedCalls).ours.length ≤ 1 ∧
    (sharedRouter.run mixedCalls).others = sharedRouter.handlers ∧
    (∀ id, (sharedRouter.run mixedCalls).ours = [.queue id] ↔
      ∃ l, (sharedRouter.run mixedCalls).listener = some l ∧ l.queue = id) ∧
    ((sharedRouter.run mixedCalls).configured = true → ∀ c : SetUp, c.force = false →
      (sharedRouter.run mixedCalls).setUp c = sharedRouter.run mixedCalls) := by
  have hfresh : sharedRouter.Fresh := ⟨by decide, by decide, by decide⟩
  have hhandlers : (sharedRouter.run mixedCalls).handlers = [.foreign 1, .foreign 2, .queue 1] := by
    decide +kernel
  exact ⟨hfresh, hhandlers, reconfiguration_is_clean hfresh mixedCalls⟩

end SourceCensus.Router
