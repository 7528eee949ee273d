import SourceCensus.Tree.Collapse

/-! # The queue of candidates

    Candidates are compared by their lines and then by the moment they were queued. Among
    candidates that were queued at different moments this is a strict total order, and
    `enqueue` keeps a queue sorted by it (`pairwise_enqueue`). A new candidate is always the
    latest, so it goes behind those that have as many lines.
-/

namespace SourceCensus.Tree

namespace Candidate

variable {a b c : Candidate}

theorem before_iff : a.before b = true ↔
    a.lineCount < b.lineCount ∨ a.lineCount = b.lineCount ∧ a.order < b.order := by
  simp [before]

theorem before_trans (hab : a.before b = true) (hbc : b.before c = true) :
    a.before c = true := by
  rw [before_iff] at *
  omega

/-- Of two candidates queued at different moments one goes before the other. -/
theorem before_of_not_before (hba : b.before a = false) (horder : b.order ≠ a.order) :
    a.before b = true := by
  rw [Bool.eq_false_iff, Ne, before_iff] at hba
  rw [before_iff]
  omega

theorem lineCount_le_of_before (hab : a.before b = true) : a.lineCount ≤ b.lineCount := by
  rw [before_iff] at hab
  omega

end Candidate

/-! ## Enqueueing -/

variable {c d : Candidate} {queue : List Candidate}

theorem perm_enqueue (c : Candidate) (queue : List Candidate) :
    (enqueue c queue).Perm (c :: queue) := by
  induction queue with
  | nil => exact .refl _
  | cons d rest ih =>
    rw [enqueue]
    split
    · exact .refl _
    · exact (ih.cons d).trans (.swap c d rest)

theorem mem_enqueue_iff : d ∈ enqueue c queue ↔ d = c ∨ d ∈ queue := by
  rw [(perm_enqueue c queue).mem_iff, List.mem_cons]

theorem pairwise_enqueue (hsorted : queue.Pairwise fun a b => a.before b = true)
    (hlatest : ∀ d ∈ queue, d.order < c.order) :
    (enqueue c queue).Pairwise fun a b => a.before b = true := by
  induction queue with
  | nil => exact List.pairwise_singleton _ c
  | cons d rest ih =>
    obtain ⟨hhead, hrest⟩ := List.pairwise_cons.1 hsorted
    rw [enqueue]
    split
    · -- the new candidate goes in front of the head, and so of all others
      rename_i hcd
      refine List.pairwise_cons.2 ⟨?_, hsorted⟩
      intro e he
      rcases List.mem_cons.1 he with rfl | he
      · exact hcd
      · exact Candidate.before_trans hcd (hhead e he)
    · -- the head stays in front: it goes before the new candidate, which came later
      rename_i hcd
      refine List.pairwise_cons.2 ⟨?_, ih hrest fun e he => hlatest e (by simp [he])⟩
      intro e he
      rcases mem_enqueue_iff.1 he with rfl | he
      · have horder := hlatest d (by simp)
        exact Candidate.before_of_not_before (by simpa using hcd) (by omega)
      · exact hhead e he

end SourceCensus.Tree
