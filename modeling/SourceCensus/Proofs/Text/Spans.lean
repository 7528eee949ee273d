import SourceCensus.Proofs.Text.Blanking

/-! # Spans as a caller writes them

    A caller hands over spans with offsets of either sign: one below zero counts from the end of the
    text, and a span that is empty or runs backwards has no offsets at all. A place of the text is
    blanked when a span reaches it by one of its two offsets (`Reached`), so blanking may be told
    place by place again (`getElem?_blank?`).

    Spans that reach the same places do the same (`blank?_eq_of_reached`). It follows that blanking
    a second time changes nothing (`blank?_again`), and that two lists of spans may be blanked one
    after the other, at once or in the other order (`blank?_append`, `blank?_append_comm`). These
    laws also hold for spans that leave the text, for then both sides fail.

    For spans between the first and the last place of the text, blanking never fails, and it is a
    mask that depends on the union of the spans alone (`blanking_is_pointwise`).
-/

namespace SourceCensus.Text

/-! ## Offsets of either sign -/

/-- The offset lies in one of the spans. -/
def Spanned (spans : List (Int × Int)) (i : Int) : Prop := ∃ s ∈ spans, s.1 ≤ i ∧ i < s.2

/-- A place of a text of length `n` that a span reaches, counted from the start or from the end. -/
def Reached (n : Nat) (spans : List (Int × Int)) (i : Nat) : Prop :=
  Spanned spans i ∨ Spanned spans (i - n)

/-- No span begins before the text, and none ends behind it. -/
def Bounded (n : Nat) (spans : List (Int × Int)) : Prop := ∀ s ∈ spans, 0 ≤ s.1 ∧ s.2 ≤ n

instance (spans : List (Int × Int)) (i : Int) : Decidable (Spanned spans i) :=
  inferInstanceAs (Decidable (∃ s ∈ spans, s.1 ≤ i ∧ i < s.2))

instance (n : Nat) (spans : List (Int × Int)) (i : Nat) : Decidable (Reached n spans i) :=
  inferInstanceAs (Decidable (Spanned spans i ∨ Spanned spans (i - n)))

instance (n : Nat) (spans : List (Int × Int)) : Decidable (Bounded n spans) :=
  inferInstanceAs (Decidable (∀ s ∈ spans, 0 ≤ s.1 ∧ s.2 ≤ n))

variable {spans others : List (Int × Int)} {t u : Text} {n i : Nat}

theorem spanned_append {i : Int} :
    Spanned (spans ++ others) i ↔ Spanned spans i ∨ Spanned others i := by
  unfold Spanned
  simp only [List.mem_append, or_and_right, exists_or]

theorem reached_append :
    Reached n (spans ++ others) i ↔ Reached n spans i ∨ Reached n others i := by
  unfold Reached
  rw [spanned_append, spanned_append, or_or_or_comm]

/-- The two runs of a span hold its offsets from zero on, and those below zero that count back to a
    place. -/
theorem covered_spanPositions (n : Nat) (s : Int × Int) (i : Nat) :
    Covered (spanPositions n s) i ↔
      (s.1 ≤ i ∧ i < s.2) ∨ (i < n ∧ s.1 ≤ i - n ∧ (i - n : Int) < s.2) := by
  unfold Covered spanPositions
  simp only [List.mem_cons, List.not_mem_nil, or_false, exists_eq_or_imp, exists_eq_left]
  omega

theorem covered_positions_iff (hi : i < n) :
    Covered (spans.flatMap (spanPositions n)) i ↔ Reached n spans i := by
  rw [covered_flatMap]
  simp only [covered_spanPositions, hi, true_and, and_or_left, exists_or]
  rfl

/-! ## The laws of blanking -/

/-- Blanking succeeds when every span is inside, and then it blanks the runs of the spans. -/
theorem blank?_eq_ok_iff : t.blank? spans = .ok u ↔
    (∀ s ∈ spans, spanInside t.length s = true) ∧
      t.blank (spans.flatMap (spanPositions t.length)) = u := by
  unfold blank?
  rw [← List.all_eq_true]
  by_cases hinside : spans.all (spanInside t.length) = true
  · rw [if_pos hinside, and_iff_right hinside, Except.ok.injEq]
  · rw [if_neg hinside]
    exact iff_of_false (fun h => by cases h) (fun h => hinside h.1)

theorem length_blank? (h : t.blank? spans = .ok u) : u.length = t.length := by
  rw [← (blank?_eq_ok_iff.1 h).2, length_blank]

/-- **Blanking, place by place:** what a span reaches is blank, and the rest is as it was. -/
theorem getElem?_blank? (h : t.blank? spans = .ok u) (hi : i < t.length) :
    u[i]? = some (if Reached t.length spans i then blankChar t[i] else t[i]) := by
  rw [← (blank?_eq_ok_iff.1 h).2, getElem?_blank, List.getElem?_eq_getElem hi, Option.map_some]
  simp only [covered_positions_iff hi]
  exact (apply_ite some _ _ _).symm

/-- **Only the places count:** other spans inside the text that reach the same places do the
    same. -/
theorem blank?_eq_of_reached (h : t.blank? spans = .ok u)
    (hinside : ∀ s ∈ others, spanInside t.length s = true)
    (hsame : ∀ i < t.length, Reached t.length others i ↔ Reached t.length spans i) :
    t.blank? others = .ok u := by
  have hothers : t.blank? others = .ok (t.blank (others.flatMap (spanPositions t.length))) :=
    blank?_eq_ok_iff.2 ⟨hinside, rfl⟩
  rw [hothers, Except.ok.injEq]
  apply List.ext_getElem?
  intro i
  by_cases hi : i < t.length
  · rw [getElem?_blank? hothers hi, getElem?_blank? h hi]
    simp only [hsame i hi]
  · rw [List.getElem?_eq_none, List.getElem?_eq_none]
    · rw [length_blank? h]
      omega
    · rw [length_blank]
      omega

/-- **One list after the other** is both lists at once. Where one of them leaves the text, either
    way fails. -/
theorem blank?_append (spans others : List (Int × Int)) (t : Text) :
    t.blank? (spans ++ others) = t.blank? spans >>= fun u => u.blank? others := by
  by_cases hspans : spans.all (spanInside t.length) = true
  · have hfirst : t.blank? spans = .ok (t.blank (spans.flatMap (spanPositions t.length))) :=
      if_pos hspans
    rw [hfirst]
    change _ = blank? others _
    -- the second list meets a text of the same length
    unfold blank?
    rw [length_blank, blank_blank, List.all_append, hspans, Bool.true_and, List.flatMap_append]
  · have hfirst : t.blank? spans = .error .outOfRange := if_neg hspans
    rw [hfirst]
    refine if_neg ?_
    rw [List.all_append, Bool.and_eq_true]
    exact fun h => hspans h.1

/-- The order of two lists makes no difference. -/
theorem blank?_append_comm (spans others : List (Int × Int)) (t : Text) :
    t.blank? (spans ++ others) = t.blank? (others ++ spans) := by
  have hcovered : ∀ i, Covered ((spans ++ others).flatMap (spanPositions t.length)) i ↔
      Covered ((others ++ spans).flatMap (spanPositions t.length)) i := by
    intro i
    unfold Covered
    simp only [List.flatMap_append, List.mem_append, or_comm]
  unfold blank?
  rw [blank_congr hcovered, List.all_append, List.all_append, Bool.and_comm]

/-- A second time changes nothing. -/
theorem blank?_again (h : t.blank? spans = .ok u) : u.blank? spans = .ok u := by
  have htwice : t.blank? (spans ++ spans) = u.blank? spans := by
    rw [blank?_append, h]
    rfl
  rw [← htwice]
  -- a list of spans twice over reaches no other places than once
  apply blank?_eq_of_reached h
  · intro s hs
    exact (blank?_eq_ok_iff.1 h).1 s ((List.mem_append.1 hs).elim id id)
  · intro i _
    rw [reached_append, or_self]

/-! ## Spans between the first and the last place -/

theorem Bounded.append (h : Bounded n spans) (hothers : Bounded n others) :
    Bounded n (spans ++ others) := by
  intro s hs
  exact (List.mem_append.1 hs).elim (h s) (hothers s)

theorem Bounded.inside (h : Bounded n spans) : ∀ s ∈ spans, spanInside n s = true := by
  intro s hs
  have hbounds := h s hs
  unfold spanInside
  simp only [Bool.or_eq_true, Bool.and_eq_true, decide_eq_true_eq]
  omega

/-- No place is reached from the end. -/
theorem Bounded.reached_iff (h : Bounded n spans) (hi : i < n) :
    Reached n spans i ↔ Spanned spans i := by
  have hbelow : ¬ Spanned spans (i - n) := by
    rintro ⟨s, hs, hle, -⟩
    have hstart := (h s hs).1
    omega
  exact or_iff_left hbelow

theorem Bounded.blank?_succeeds (h : Bounded t.length spans) : ∃ u, t.blank? spans = .ok u :=
  ⟨_, blank?_eq_ok_iff.2 ⟨h.inside, rfl⟩⟩

/-- Plain offsets that do not leave the text mean what they say. -/
theorem blank?_offsets {spans : List (Nat × Nat)} (h : ∀ s ∈ spans, s.2 ≤ t.length) :
    t.blank? (spans.map fun s => ((s.1 : Int), (s.2 : Int))) = .ok (t.blank spans) := by
  have hbounded : Bounded t.length (spans.map fun s => ((s.1 : Int), (s.2 : Int))) := by
    intro s hs
    obtain ⟨p, hp, rfl⟩ := List.mem_map.1 hs
    have hend := h p hp
    dsimp only
    omega
  have hspan : ∀ (s : Nat × Nat) (i : Nat),
      Covered (spanPositions t.length ((s.1 : Int), (s.2 : Int))) i ↔ s.1 ≤ i ∧ i < s.2 := by
    intro s i
    rw [covered_spanPositions]
    dsimp only
    omega
  rw [blank?_eq_ok_iff]
  refine ⟨hbounded.inside, blank_congr ?_⟩
  intro i
  rw [List.flatMap_map, covered_flatMap]
  simp only [hspan]
  rfl

/-- Only the union of the spans matters. -/
theorem Bounded.blank?_eq (h : Bounded t.length spans) (hothers : Bounded t.length others)
    (hunion : ∀ i : Nat, Spanned others i ↔ Spanned spans i) (hu : t.blank? spans = .ok u) :
    t.blank? others = .ok u := by
  apply blank?_eq_of_reached hu hothers.inside
  intro i hi
  rw [h.reached_iff hi, hothers.reached_iff hi, hunion]

/-- **Blanking is a mask.** Spans that lie between the first and the last place of a text, in any
    order and overlapping as they may, leave a text of the same length that has a space where the
    text has a character other than a line feed under one of the spans, and the character of the
    text anywhere else. Spans with the same union leave the same text, a second time changes
    nothing, and a second list of spans may be blanked afterwards, before, or together with the
    first one in either order. -/
theorem blanking_is_pointwise (h : Bounded t.length spans) :
    ∃ u, t.blank? spans = .ok u ∧ u.length = t.length ∧
      (∀ i (hi : i < t.length),
        u[i]? = some (if Spanned spans i ∧ t[i] ≠ '\n' then ' ' else t[i])) ∧
      (∀ others, Bounded t.length others → (∀ i : Nat, Spanned others i ↔ Spanned spans i) →
        t.blank? others = .ok u) ∧
      u.blank? spans = .ok u ∧
      ∀ others, Bounded t.length others →
        ∃ v, t.blank? (spans ++ others) = .ok v ∧ t.blank? (others ++ spans) = .ok v ∧
          u.blank? others = .ok v ∧ (t.blank? others >>= fun w => w.blank? spans) = .ok v := by
  obtain ⟨u, hu⟩ := h.blank?_succeeds
  refine ⟨u, hu, length_blank? hu, ?_, ?_, blank?_again hu, ?_⟩
  · -- nothing is counted from the end, so the places that are reached are those under a span
    intro i hi
    rw [getElem?_blank? hu hi, Option.some.injEq]
    simp only [h.reached_iff hi]
    unfold blankChar
    by_cases hspanned : Spanned spans i
    · by_cases hfeed : t[i] = '\n'
      · rw [if_pos hspanned, if_pos hfeed, if_neg (fun hmask => hmask.2 hfeed)]
      · rw [if_pos hspanned, if_neg hfeed, if_pos ⟨hspanned, hfeed⟩]
    · rw [if_neg hspanned, if_neg (fun hmask => hspanned hmask.1)]
  · intro others hothers hunion
    exact h.blank?_eq hothers hunion hu
  · intro others hothers
    obtain ⟨v, hv⟩ := (h.append hothers).blank?_succeeds
    refine ⟨v, hv, ?_, ?_, ?_⟩
    · rw [blank?_append_comm, hv]
    · -- the first list, then the second
      rw [← hv, blank?_append, hu]
      rfl
    · -- the second list, then the first
      rw [← blank?_append, blank?_append_comm, hv]

/-- Two spans that overlap, one of them with another one inside it and given twice, one that runs
    backwards from behind the end to before the start, and an empty one. -/
def sampleSpans : List (Int × Int) := [(2, 4), (1, 3), (2, 3), (1, 3), (9, -2), (5, 5)]

theorem blanking_is_pointwise_sampleSpans :
    let t : Text := ['a', 'b', '\n', 'c', 'd']
    Bounded t.length sampleSpans ∧
      ∃ u, t.blank? sampleSpans = .ok u ∧ u.length = 5 ∧
        u[0]? = some 'a' ∧ u[1]? = some ' ' ∧ u[2]? = some '\n' ∧ u[3]? = some ' ' ∧
        u[4]? = some 'd' ∧ t.blank? [(1, 4)] = .ok u := by
  intro t
  have hbounded : Bounded t.length sampleSpans := by decide
  have hunion : ∀ i : Nat, Spanned [(1, 4)] i ↔ Spanned sampleSpans i := by
    intro i
    unfold Spanned sampleSpans
    simp only [List.mem_cons, List.not_mem_nil, or_false, exists_eq_or_imp, exists_eq_left]
    omega
  obtain ⟨u, hu, hlength, hplace, hsame, -⟩ := blanking_is_pointwise hbounded
  refine ⟨hbounded, u, hu, hlength, hplace 0 (by decide), hplace 1 (by decide),
    hplace 2 (by decide), hplace 3 (by decide), hplace 4 (by decide),
    hsame [(1, 4)] (by decide) hunion⟩

end SourceCensus.Text
