import SourceCensus.Text.Span

/-! # Blanking, place by place

    Blanking goes through the spans one after the other and over the characters of each. What one
    span does to a text (`getElem?_blank_one`) does not depend on what the spans before it have left
    there, since a blank character stays as it is. So what comes of all spans can be said of every
    place on its own (`getElem?_blank`): a character that a span covers is blank, and any other is
    the one that was there.

    Neither the order of the spans nor how often a place is covered makes a difference
    (`blank_congr`), and blanking some spans after others is blanking all of them (`blank_blank`).
-/

namespace SourceCensus.Text

/-- The offset lies in one of the spans. -/
def Covered (spans : List (Nat × Nat)) (i : Nat) : Prop := ∃ s ∈ spans, s.1 ≤ i ∧ i < s.2

instance (spans : List (Nat × Nat)) (i : Nat) : Decidable (Covered spans i) :=
  inferInstanceAs (Decidable (∃ s ∈ spans, s.1 ≤ i ∧ i < s.2))

variable {spans others : List (Nat × Nat)} {t : Text} {i : Nat}

theorem covered_cons {s : Nat × Nat} :
    Covered (s :: spans) i ↔ (s.1 ≤ i ∧ i < s.2) ∨ Covered spans i := by
  unfold Covered
  simp only [List.mem_cons, or_and_right, exists_or, exists_eq_left]

theorem covered_flatMap {α : Type} {f : α → List (Nat × Nat)} {xs : List α} :
    Covered (xs.flatMap f) i ↔ ∃ x ∈ xs, Covered (f x) i := by
  constructor
  · rintro ⟨s, hs, hcovers⟩
    obtain ⟨x, hx, hs⟩ := List.mem_flatMap.1 hs
    exact ⟨x, hx, s, hs, hcovers⟩
  · rintro ⟨x, hx, s, hs, hcovers⟩
    exact ⟨s, List.mem_flatMap.2 ⟨x, hx, hs⟩, hcovers⟩

@[simp] theorem blankChar_blankChar (c : Char) : blankChar (blankChar c) = blankChar c := by
  unfold blankChar
  by_cases hc : c = '\n'
  · rw [if_pos hc, if_pos hc]
  · rw [if_neg hc]
    rfl

theorem getElem?_blankRun (cs : Array Char) (start count i : Nat) :
    (blankRun cs start count)[i]? =
      if start ≤ i ∧ i < start + count then cs[i]?.map blankChar else cs[i]? := by
  induction count generalizing cs start with
  | zero =>
    rw [blankRun, if_neg]
    omega
  | succ count ih =>
    rw [blankRun, ih, Array.getElem?_modify]
    by_cases hstart : start = i
    · -- the first place of the run, which the rest of the run leaves alone
      rw [if_pos hstart, if_neg (by omega), if_pos (by omega)]
    · rw [if_neg hstart]
      by_cases hin : start + 1 ≤ i ∧ i < start + 1 + count
      · rw [if_pos hin, if_pos (by omega)]
      · rw [if_neg hin, if_neg (by omega)]

@[simp] theorem size_blankRun (cs : Array Char) (start count : Nat) :
    (blankRun cs start count).size = cs.size := by
  induction count generalizing cs start with
  | zero => rfl
  | succ count ih => rw [blankRun, ih, Array.size_modify]

/-! ## Span by span -/

/-- Blanking spans and then others is blanking all of them. -/
theorem blank_blank (spans others : List (Nat × Nat)) (t : Text) :
    (t.blank spans).blank others = t.blank (spans ++ others) := by
  unfold blank
  rw [List.foldl_append, Array.toArray_toList]

theorem blank_cons (s : Nat × Nat) (spans : List (Nat × Nat)) (t : Text) :
    t.blank (s :: spans) = (t.blank [s]).blank spans := (blank_blank [s] spans t).symm

/-- What blanking one span does. -/
theorem getElem?_blank_one (s : Nat × Nat) (t : Text) (i : Nat) :
    (t.blank [s])[i]? = if s.1 ≤ i ∧ i < s.2 then t[i]?.map blankChar else t[i]? := by
  rw [blank, List.foldl_cons, List.foldl_nil, Array.getElem?_toList, getElem?_blankRun,
    List.getElem?_toArray, List.size_toArray]
  by_cases hin : i < t.length
  · have hrun : (s.1 ≤ i ∧ i < s.1 + (min s.2 t.length - s.1)) ↔ (s.1 ≤ i ∧ i < s.2) := by omega
    simp only [hrun]
  · -- behind the end there is nothing to blank
    have hnone : t[i]? = none := List.getElem?_eq_none (by omega)
    simp only [hnone, Option.map_none, ite_self]

theorem length_blank_one (s : Nat × Nat) (t : Text) : (t.blank [s]).length = t.length := by
  rw [blank, List.foldl_cons, List.foldl_nil, Array.length_toList, size_blankRun,
    List.size_toArray]

/-! ## All spans -/

/-- **Blanking, place by place:** what a span covers is blank, and the rest is as it was. -/
theorem getElem?_blank (spans : List (Nat × Nat)) (t : Text) (i : Nat) :
    (t.blank spans)[i]? = if Covered spans i then t[i]?.map blankChar else t[i]? := by
  induction spans generalizing t with
  | nil =>
    rw [if_neg]
    · rfl
    · rintro ⟨s, hs, -⟩
      cases hs
  | cons s spans ih =>
    rw [blank_cons, ih, getElem?_blank_one]
    by_cases hs : s.1 ≤ i ∧ i < s.2
    · -- a second span over the same place changes nothing
      have htwice : blankChar ∘ blankChar = blankChar := funext blankChar_blankChar
      rw [if_pos hs, if_pos (covered_cons.2 (.inl hs)), Option.map_map, htwice, ite_self]
    · have hrest : Covered (s :: spans) i ↔ Covered spans i := by
        rw [covered_cons, or_iff_right hs]
      rw [if_neg hs]
      simp only [hrest]

@[simp] theorem length_blank (spans : List (Nat × Nat)) (t : Text) :
    (t.blank spans).length = t.length := by
  induction spans generalizing t with
  | nil => rfl
  | cons s spans ih => rw [blank_cons, ih, length_blank_one]

/-- Only which places are covered matters. -/
theorem blank_congr (h : ∀ i, Covered spans i ↔ Covered others i) :
    t.blank spans = t.blank others := by
  apply List.ext_getElem?
  intro i
  rw [getElem?_blank, getElem?_blank]
  simp only [h i]

end SourceCensus.Text
