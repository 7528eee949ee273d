import SourceCensus.Proofs.Build.Assembly
import SourceCensus.Proofs.Collapse.Budget
import SourceCensus.Proofs.Collapse.Conservation

/-! # Collapsing a tree that was built

    The tree of a survey is summarized and linked (`ofSurvey_sound`): every folder carries what its
    children come to, and every node below the top knows its parent. The first makes every merge
    succeed, whatever the numbers are, and the second lets the loop find every node that can be
    merged. So such a tree is always brought within its budget, and its top keeps its lines
    (`collapse_of_sound`).
-/

namespace SourceCensus.Tree

open Collapsing

variable {t : Tree} {s : Survey} {read : String → Except ε Text} {ε : Type} {workers : Int}
  {finish : List Nat} {budget : Int}

/-! ## The tree of a survey -/

theorem isLeaf_of_ofFile {p : String} (h : ofFile read p = .ok t) : t.isLeaf = true := by
  unfold ofFile at h
  split at h
  · cases h
  · split at h
    · cases h
    · rename_i hleaf
      cases h
      obtain ⟨stats, -, rfl⟩ := map_eq_ok hleaf
      rfl

/-- **What is put together from below** is summarized and linked. -/
theorem ofSurvey_sound (h : ofSurvey read workers finish s = .ok t) : t.Summarized ∧ t.Linked := by
  obtain ⟨made, hmade, htree⟩ := ofSurvey_eq_ok_iff.1 h
  apply assemble_induction (P := fun _ t => t.Summarized ∧ t.Linked) _ s _ t htree
  · intro path items cs t hcs ht
    have hall : ∀ c ∈ cs, c.Summarized ∧ c.Linked := forall_of_forall₂ hcs
    exact ⟨summarized_ofChildren (fun c hc => (hall c hc).1) ht,
      linked_ofChildren (fun c hc => (hall c hc).2) ht⟩
  · intro p hp
    have hleaf := isLeaf_of_ofFile (ofFile_leafFor (forall₂_of_mapM hmade) hp)
    exact ⟨summarized_of_isLeaf hleaf, linked_of_isLeaf hleaf⟩

/-! ## The run -/

theorem unaltered_start (hsum : t.Summarized) : Unaltered t (startCollapsing t [] t) := by
  obtain ⟨horderly, -, htree, -⟩ := start_orderly t
  exact ⟨horderly, htree.symm ▸ hsum, fun a n hn => ⟨n, htree ▸ hn, rfl⟩⟩

/-- No turn adds a node. -/
theorem Collapsing.Visits.size_le {s last : Collapsing} (h : Visits budget s last) :
    last.tree.size ≤ s.tree.size := by
  induction h with
  | here => exact Nat.le_refl _
  | next hturn _ ih => exact Nat.le_trans ih (Nat.le_of_lt (size_turn hturn))

/-- **A summarized and linked tree is brought within every budget,** without an error. It has no
    more nodes than before, and its top has the same lines. -/
theorem collapse_of_sound (hsum : t.Summarized) (hl : t.Linked) (hb : 1 ≤ budget) :
    ∃ r, t.collapse budget = .ok r ∧ r.failure = none ∧ (r.tree.countNodes : Int) ≤ budget ∧
      r.tree.countNodes ≤ t.countNodes ∧ r.tree.info.lineCount = t.info.lineCount := by
  have hstart := unaltered_start hsum
  obtain ⟨horderly, hcomplete, htree, -⟩ := start_orderly t
  obtain ⟨r, last, hr, hvisits, hend, hrtree, -, hfailure, -⟩ := collapse_of_run hb <|
    run_of_invariant hstart (fun hu => ⟨hu.orderly, hu.merging⟩) Unaltered.turn
  have hlast := hvisits.invariant hstart Unaltered.turn
  have hall : last.Complete := hvisits.complete (htree.symm ▸ hl) hcomplete
  refine ⟨r, hr, hfailure, ?_⟩
  rw [countNodes_eq_size, countNodes_eq_size, hrtree]
  refine ⟨?_, ?_, ?_⟩
  · rw [← hlast.orderly.total_eq]
    exact hlast.orderly.total_le_of_stuck hall hb hend
  · have hle := hvisits.size_le
    rwa [htree] at hle
  · -- the top is a node that is left, and carries what it carried
    obtain ⟨m, hm, hkept⟩ := hlast.kept [] last.tree (get?_nil _)
    rw [get?_nil, Option.some.injEq] at hm
    rw [hkept, hm]

end SourceCensus.Tree
