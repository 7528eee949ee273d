import SourceCensus.Stats.Basic
import SourceCensus.Proofs.Number.Range
import SourceCensus.Proofs.Success

/-! # Merged statistics

    A merge of statistics adds up: its lines are the lines of all parts (`fst_of_mergeStats`), and
    its entry for a category occurs as often as the entries of the parts together
    (`occurrencesAt_of_mergeStats`), where an entry that a part does not have counts for nothing.

    A merge can only fail when a number of lines has no double (`mergeStats_of_inRange`). Below two
    to the power of 1000 all of them do (`toDouble_of_lt`).
-/

namespace SourceCensus

/-! ## Vectors with an entry for each category -/

/-- How often the category with a place in the fixed order occurs; nothing where there is no
    entry. -/
def occurrencesAt (i : Nat) (stats : StatsVector) : Int :=
  (stats[i]?.map (·.occurrences)).getD 0

theorem getElem?_ordinal (c : Category) : Category.all[c.ordinal]? = some c := by
  cases c <;> rfl

/-- Every place below fourteen is that of a category. -/
theorem exists_ordinal_eq {i : Nat} (h : i < 14) : ∃ c : Category, c.ordinal = i := by
  have hall : ∀ j < 14, ∃ c ∈ Category.all, c.ordinal = j := by decide
  obtain ⟨c, -, hc⟩ := hall i h
  exact ⟨c, hc⟩

/-- The entry of a category in a vector that was made category by category. -/
theorem getElem?_of_mapM {f : Category → Except StatsError CategoryStats} {stats : StatsVector}
    (h : Category.all.mapM f = .ok stats) (c : Category) :
    ∃ entry, stats[c.ordinal]? = some entry ∧ f c = .ok entry := by
  have hall := forall₂_of_mapM h
  have hc := getElem?_ordinal c
  obtain ⟨hlt, hget⟩ := List.getElem?_eq_some_iff.1 hc
  have hlt' : c.ordinal < stats.length := hall.length_eq ▸ hlt
  refine ⟨stats[c.ordinal], List.getElem?_eq_getElem hlt', ?_⟩
  have hentry := hall.get hlt hlt'
  rwa [List.get_eq_getElem, hget] at hentry

/-! ## What a merge adds up -/

/-- Merged statistics come with the lines of all parts together. -/
theorem fst_of_mergeStats {parts : List WeightedStats} {merged : WeightedStats}
    (h : mergeStats parts = .ok merged) : merged.1 = (parts.map (·.1)).foldr (· + ·) 0 := by
  obtain ⟨entries, -, h⟩ := bind_eq_ok h
  cases h
  rfl

theorem fst_of_addWeighted {i : Nat} {acc next : Int × Float} {part : WeightedStats}
    (h : addWeighted i acc part = .ok next) : next.1 = acc.1 + occurrencesAt i part.2 := by
  rw [addWeighted] at h
  rw [occurrencesAt]
  cases hentry : part.2[i]? with
  | none =>
    rw [hentry] at h
    cases h
    simp
  | some s =>
    rw [hentry] at h
    obtain ⟨x, -, h⟩ := bind_eq_ok h
    cases h
    rfl

/-- Part by part the occurrences are added to what there was. -/
theorem fst_of_foldlM_addWeighted {i : Nat} {parts : List WeightedStats} {acc last : Int × Float}
    (h : parts.foldlM (addWeighted i) acc = .ok last) :
    last.1 = acc.1 + (parts.map fun part => occurrencesAt i part.2).foldr (· + ·) 0 := by
  induction parts generalizing acc with
  | nil =>
    cases h
    simp
  | cons part parts ih =>
    rw [List.foldlM_cons] at h
    obtain ⟨next, hnext, h⟩ := bind_eq_ok h
    have hstep := fst_of_addWeighted hnext
    have hrest := ih h
    rw [List.map_cons, List.foldr_cons]
    omega

theorem occurrences_of_mergeEntry {parts : List WeightedStats} {total : Int} {i : Nat}
    {entry : CategoryStats} (h : mergeEntry parts total i = .ok entry) :
    entry.occurrences = (parts.map fun part => occurrencesAt i part.2).foldr (· + ·) 0 := by
  obtain ⟨⟨occurrences, weighted⟩, hlast, h⟩ := bind_eq_ok h
  have hsum := fst_of_foldlM_addWeighted hlast
  rw [Int.zero_add] at hsum
  rw [← hsum]
  -- the total decides about the dispersion alone
  dsimp only at h
  by_cases hpos : 0 < total
  · rw [if_pos hpos] at h
    obtain ⟨x, -, h⟩ := bind_eq_ok h
    cases h
    rfl
  · rw [if_neg hpos] at h
    cases h
    rfl

/-- **Occurrences add up.** A category occurs in a merge as often as in the parts together. -/
theorem occurrencesAt_of_mergeStats {parts : List WeightedStats} {merged : WeightedStats}
    (h : mergeStats parts = .ok merged) (c : Category) :
    occurrencesAt c.ordinal merged.2 =
      (parts.map fun part => occurrencesAt c.ordinal part.2).foldr (· + ·) 0 := by
  obtain ⟨stats, hstats, h⟩ := bind_eq_ok h
  cases h
  obtain ⟨entry, hget, hentry⟩ := getElem?_of_mapM hstats c
  rw [← occurrences_of_mergeEntry hentry]
  show (stats[c.ordinal]?.map (·.occurrences)).getD 0 = entry.occurrences
  rw [hget]
  rfl

/-! ## When a merge succeeds -/

/-- A number that has a double. -/
def InRange (n : Int) : Prop := ∃ x, toDouble n = .ok x

theorem toDouble_of_lt {n : Int} (h : n.natAbs < Number.twoTo 1000) : InRange n := by
  obtain ⟨x, hx⟩ := Number.double?_of_lt h
  exact ⟨x, by rw [toDouble, hx]⟩

theorem addWeighted_succeeds (i : Nat) {part : WeightedStats} (h : InRange part.1)
    (acc : Int × Float) : ∃ next, addWeighted i acc part = .ok next := by
  rw [addWeighted]
  cases part.2[i]? with
  | none => exact ⟨acc, rfl⟩
  | some s =>
    obtain ⟨x, hx⟩ := h
    exact ⟨_, by simp only [hx]; rfl⟩

theorem mergeEntry_succeeds {parts : List WeightedStats} {total : Int}
    (hparts : ∀ part ∈ parts, InRange part.1) (htotal : InRange total) (i : Nat) :
    ∃ entry, mergeEntry parts total i = .ok entry := by
  obtain ⟨last, hlast⟩ := foldlM_succeeds
    (fun part hpart acc => addWeighted_succeeds i (hparts part hpart) acc) (0, 0.0)
  obtain ⟨x, hx⟩ := htotal
  rw [mergeEntry, hlast]
  -- the total is converted only where it divides
  by_cases hpos : 0 < total
  · exact ⟨⟨last.1, last.2 / x⟩, by simp only [hx, hpos]; rfl⟩
  · exact ⟨⟨last.1, 0.0⟩, by simp only [hpos]; rfl⟩

/-- **A merge succeeds** where the lines of all parts, and all lines together, have doubles. -/
theorem mergeStats_of_inRange {parts : List WeightedStats} (hparts : ∀ part ∈ parts, InRange part.1)
    (htotal : InRange ((parts.map (·.1)).foldr (· + ·) 0)) :
    ∃ merged, mergeStats parts = .ok merged := by
  obtain ⟨stats, hstats⟩ := mapM_succeeds fun (c : Category) (_ : c ∈ Category.all) =>
    mergeEntry_succeeds hparts htotal c.ordinal
  exact ⟨(_, stats), by rw [mergeStats, hstats]; rfl⟩

end SourceCensus
