import SourceCensus.Proofs.Collapse.Budget
import SourceCensus.Proofs.Tree.Totals

/-! # Merges one after the other

    A run of the loop reports the addresses of the merged nodes in order. `mergeAll?` makes the
    merges of such a list one after the other, without a queue and without a budget, and leads
    to the tree of the run (`Replayed`). What a list of merges leaves alone can therefore be read
    off single merges:

    - a node that is still there has the address it had, and its leaves come to the same totals
      (`exists_sameTotals_of_mergeAll?`);
    - a leaf that is still there is still the same leaf (`eq_of_mergeAll?`);
    - a list of merges can be cut anywhere (`exists_of_mergeAll?_append`).
-/

namespace SourceCensus.Tree

open Collapsing

variable {t u v n leaf : Tree} {a b : Address} {as bs : List Address} {s last : Collapsing}
  {budget : Int}

/-! ## Single merges -/

/-- The tree after the node at an address is merged, if it can be. -/
def mergeAt? (t : Tree) (a : Address) : Option Tree :=
  match t.get? a with
  | none => none
  | some old =>
    match old.merge with
    | .error _ => none
    | .ok new => some (t.replace a new)

theorem mergeAt?_eq_some_iff : t.mergeAt? a = some u ↔
    ∃ old new, t.get? a = some old ∧ old.merge = .ok new ∧ u = t.replace a new := by
  rw [mergeAt?]
  constructor
  · intro h
    cases hold : t.get? a with
    | none =>
      rw [hold] at h
      cases h
    | some old =>
      rw [hold] at h
      cases hnew : old.merge with
      | error e =>
        simp only [hnew] at h
        cases h
      | ok new =>
        simp only [hnew, Option.some.injEq] at h
        exact ⟨old, new, rfl, hnew, h.symm⟩
  · rintro ⟨old, new, hold, hnew, rfl⟩
    rw [hold]
    simp only [hnew]

/-- The merged node has become a leaf. -/
theorem exists_leaf_of_mergeAt? (h : t.mergeAt? a = some u) :
    ∃ new, u.get? a = some new ∧ new.isLeaf = true := by
  obtain ⟨old, new, hold, hnew, rfl⟩ := mergeAt?_eq_some_iff.1 h
  obtain ⟨-, hleaf, -, -⟩ := merge_eq_ok hnew
  exact ⟨new, get?_replace_self hold new, hleaf⟩

/-- A node that is there after a merge was there before, with the same totals over its leaves. -/
theorem exists_sameTotals_of_mergeAt? (h : t.mergeAt? a = some u) (hn : u.get? b = some n) :
    ∃ m, t.get? b = some m ∧ m.SameTotals n := by
  obtain ⟨old, new, hold, hnew, rfl⟩ := mergeAt?_eq_some_iff.1 h
  obtain ⟨-, hleaf, -, -⟩ := merge_eq_ok hnew
  have hsame := sameTotals_merge hnew
  rcases get?_replace_leaf hold hleaf hn with
    ⟨rfl, rfl⟩ | ⟨-, huntouched⟩ | ⟨m, i, r, -, hm, hbelow, rfl⟩
  · exact ⟨old, hold, hsame⟩
  · exact ⟨n, huntouched, fun _ => rfl⟩
  · -- above the merged node the leaves change, and their totals do not
    exact ⟨m, hm, hsame.replace hbelow⟩

/-- A leaf is not merged, and no merge below it is possible. -/
theorem eq_of_mergeAt? (h : t.mergeAt? b = some u) (hleaf : t.get? a = some leaf)
    (hend : leaf.isLeaf = true) (hn : u.get? a = some n) : n = leaf := by
  obtain ⟨old, new, hold, hnew, rfl⟩ := mergeAt?_eq_some_iff.1 h
  obtain ⟨hmerge, hnewLeaf, -, -⟩ := merge_eq_ok hnew
  rcases get?_replace_leaf hold hnewLeaf hn with
    ⟨rfl, -⟩ | ⟨-, hsame⟩ | ⟨m, i, r, -, hm, hbelow, -⟩
  · -- the node that is merged is no leaf
    rw [hold, Option.some.injEq] at hleaf
    rw [← hleaf, isLeaf_of_canMerge hmerge] at hend
    cases hend
  · rw [hleaf, Option.some.injEq] at hsame
    exact hsame.symm
  · -- and nothing stands below a leaf
    rw [hleaf, Option.some.injEq] at hm
    subst hm
    rw [isLeaf_of_get?_cons hbelow] at hend
    cases hend

/-! ## Lists of merges -/

/-- The tree after merges one after the other, if each of them can be made. -/
def mergeAll? (t : Tree) (as : List Address) : Option Tree := as.foldlM mergeAt? t

@[simp] theorem mergeAll?_nil (t : Tree) : t.mergeAll? [] = some t := rfl

theorem mergeAll?_cons (t : Tree) (a : Address) (as : List Address) :
    t.mergeAll? (a :: as) = (t.mergeAt? a).bind fun u => u.mergeAll? as := by
  rw [mergeAll?, List.foldlM_cons]
  rfl

theorem mergeAll?_append (t : Tree) (as bs : List Address) :
    t.mergeAll? (as ++ bs) = (t.mergeAll? as).bind fun u => u.mergeAll? bs := by
  rw [mergeAll?, List.foldlM_append]
  rfl

theorem mergeAll?_concat (t : Tree) (as : List Address) (a : Address) :
    t.mergeAll? (as ++ [a]) = (t.mergeAll? as).bind fun u => u.mergeAt? a := by
  rw [mergeAll?_append]
  exact congrArg _ (funext fun u => by simp [mergeAll?_cons])

/-- **Lists of merges can be cut.** -/
theorem exists_of_mergeAll?_append (h : t.mergeAll? (as ++ bs) = some v) :
    ∃ u, t.mergeAll? as = some u ∧ u.mergeAll? bs = some v := by
  rw [mergeAll?_append] at h
  exact Option.bind_eq_some_iff.1 h

/-- What every merge keeps, a list of merges keeps. -/
theorem mergeAll?_invariant {P : Tree → Prop} (h : t.mergeAll? as = some u) (ht : P t)
    (hstep : ∀ {t u : Tree} {a : Address}, P t → t.mergeAt? a = some u → P u) : P u := by
  induction as generalizing t with
  | nil =>
    cases h
    exact ht
  | cons a as ih =>
    rw [mergeAll?_cons] at h
    obtain ⟨v, hv, h⟩ := Option.bind_eq_some_iff.1 h
    exact ih h (hstep ht hv)

/-- **Totals stay** below every node that is still there after a list of merges. -/
theorem exists_sameTotals_of_mergeAll? (h : t.mergeAll? as = some u) (hn : u.get? b = some n) :
    ∃ m, t.get? b = some m ∧ m.SameTotals n := by
  have hall := mergeAll?_invariant
    (P := fun u => ∀ n, u.get? b = some n → ∃ m, t.get? b = some m ∧ m.SameTotals n) h
    (fun n hn => ⟨n, hn, fun _ => rfl⟩) ?_
  · exact hall n hn
  · intro v w a hv hw n hn
    obtain ⟨k, hk, hkn⟩ := exists_sameTotals_of_mergeAt? hw hn
    obtain ⟨m, hm, hmk⟩ := hv k hk
    exact ⟨m, hm, hmk.trans hkn⟩

/-- **A leaf stays as it is** for as long as it is there. -/
theorem eq_of_mergeAll? (h : t.mergeAll? as = some u) (hleaf : t.get? a = some leaf)
    (hend : leaf.isLeaf = true) (hn : u.get? a = some n) : n = leaf := by
  -- the leaf may be gone after some of the merges, and then it does not come back
  have hall := mergeAll?_invariant (P := fun u => ∀ n, u.get? a = some n → n = leaf) h ?_ ?_
  · exact hall n hn
  · intro n hn
    rw [hleaf, Option.some.injEq] at hn
    exact hn.symm
  · intro v w b hv hw n hn
    obtain ⟨m, hm, -⟩ := exists_sameTotals_of_mergeAt? hw hn
    have hm' := hv m hm
    subst hm'
    exact eq_of_mergeAt? hw hm hend hn

/-! ## The merges of a run -/

/-- The merges of a run lead to its tree, and each was made when the tree was too large. -/
structure Replayed (budget : Int) (t : Tree) (s : Collapsing) : Prop where
  replay : t.mergeAll? s.merged = some s.tree
  exceeded : ∀ before a after, s.merged = before ++ a :: after →
    ∃ u, t.mergeAll? before = some u ∧ budget < u.countNodes

theorem Replayed.turn {next : Collapsing} (hr : Replayed budget t s) (hs : s.Orderly)
    (h : s.turn budget = .go next) : Replayed budget t next := by
  obtain ⟨c, rest, old, new, hover, hqueue, hold, hnew, rfl⟩ := turn_eq_go h
  refine ⟨?_, ?_⟩
  · have hstep := mergeAt?_eq_some_iff.2 ⟨old, new, hold, hnew, rfl⟩
    rw [merged_mergeFirst, tree_mergeFirst, mergeAll?_concat, hr.replay, Option.bind_some, hstep]
  · intro before a after hsplit
    rw [merged_mergeFirst] at hsplit
    rcases List.eq_nil_or_concat after with rfl | ⟨after, d, rfl⟩
    · -- the merge of this turn
      obtain ⟨hbefore, -⟩ := List.append_inj' hsplit rfl
      refine ⟨s.tree, hbefore ▸ hr.replay, ?_⟩
      rw [countNodes_eq_size, ← hs.total_eq]
      exact hover
    · rw [List.concat_eq_append, ← List.cons_append, ← List.append_assoc] at hsplit
      obtain ⟨hbefore, -⟩ := List.append_inj' hsplit rfl
      exact hr.exceeded before a after hbefore

theorem Replayed.visits (h : Visits budget s last) (hr : Replayed budget t s) (hs : s.Orderly) :
    Replayed budget t last := by
  have hboth := h.invariant (P := fun s => Replayed budget t s ∧ s.Orderly) ⟨hr, hs⟩
    fun hs h => ⟨hs.1.turn hs.2 h, hs.2.turn h⟩
  exact hboth.1

theorem replayed_start (budget : Int) (t : Tree) : Replayed budget t (startCollapsing t [] t) := by
  obtain ⟨-, -, htree, hmerged⟩ := start_orderly t
  refine ⟨by rw [hmerged, htree, mergeAll?_nil], ?_⟩
  intro before a after hsplit
  rw [hmerged] at hsplit
  simp at hsplit

end SourceCensus.Tree
