import Mathlib.Data.Nat.Count
import SourceCensus.Proofs.Text.Lines

/-! # Lookup by bisection and by counting

    The line of an offset can be told in three ways: by bisection in the index of the text, by
    counting in the text before the offset, and by counting places of the text at which a line feed
    stands (`feeds_take`). They agree on every offset, also on one that lies on a line feed or
    behind the end (`lookup_counts_feeds`).
-/

namespace SourceCensus

/-- **Places of line feeds.** The first `i` characters of a text have a line feed for each place
    below `i` at which the text has one. -/
theorem Text.feeds_take (t : Text) (i : Nat) :
    Text.feeds (t.take i) = Nat.count (fun p => t[p]? = some '\n') i := by
  induction t generalizing i with
  | nil =>
    rw [List.take_nil, eq_comm]
    exact Nat.count_of_forall_not fun p _ => by simp
  | cons c rest ih =>
    cases i with
    | zero => rfl
    | succ i =>
      -- the first character stands at place zero, and all others one place further on
      rw [List.take_succ_cons, Text.feeds_cons, ih, Nat.count_succ']
      simp only [List.getElem?_cons_succ, List.getElem?_cons_zero, Option.some.injEq]

namespace LineIndex

/-- Offsets further on do not lie on an earlier line. -/
theorem lineOf_mono (t : Text) : Monotone fun i : Nat => (ofText t).lineOf i := by
  intro i j hij
  dsimp only
  rw [lineOf_eq, lineOf_eq, Text.feeds_take, Text.feeds_take]
  exact Nat.add_le_add_right (Nat.count_monotone _ hij) 1

/-- **A lookup counts line feeds.** For every offset the bisection gives the line that counting in
    the text gives: one more than the places below the offset at which a line feed stands. The line
    never goes down when the offset goes up, and in a text that is not empty it is one of its
    lines. -/
theorem lookup_counts_feeds (t : Text) :
    (∀ i : Nat, (ofText t).lineOf i = t.lineNumber i ∧
      t.lineNumber i = 1 + Nat.count (fun p => t[p]? = some '\n') i) ∧
    (Monotone fun i : Nat => (ofText t).lineOf i) ∧
    (t ≠ [] → ∀ i ≤ t.length, 1 ≤ (ofText t).lineOf i ∧ (ofText t).lineOf i ≤ t.countLines) := by
  refine ⟨?_, lineOf_mono t, ?_⟩
  · intro i
    refine ⟨lineOf_eq_lineNumber t i, ?_⟩
    rw [Text.lineNumber_eq, Text.feeds_take, Nat.add_comm]
  · intro hne i _
    rw [Text.countLines_of_ne_nil hne]
    exact lineOf_ofText t i

/-- The three lines of `123`, `4` and `56`: an offset on a line feed lies on the line that it ends,
    and the end of the text on the last one. -/
theorem lookup_counts_feeds_threeLines :
    let t := ['1', '2', '3', '\n', '4', '\n', '5', '6']
    t ≠ [] ∧ (ofText t).lineOf 3 = 1 ∧ (ofText t).lineOf 4 = 2 ∧
      1 ≤ (ofText t).lineOf t.length ∧ (ofText t).lineOf t.length ≤ 3 := by
  intro t
  obtain ⟨hcount, -, hinside⟩ := lookup_counts_feeds t
  have hne : t ≠ [] := List.cons_ne_nil _ _
  refine ⟨hne, ?_, ?_, hinside hne t.length (Nat.le_refl _)⟩
  · exact (hcount 3).1
  · exact (hcount 4).1

end LineIndex

end SourceCensus
