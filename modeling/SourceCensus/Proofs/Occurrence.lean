import SourceCensus.Occurrence

/-! # Places of occurrences

    A search goes through a text from left to right and hands each recogniser the character before
    the place and the text behind it. So what it finds can be said by what is matched at a place of
    the whole text (`matchAt`), without the search itself. Three facts say how the places lie:

    - what is found is matched at its place, whatever was found before
      (`isSome_of_mem_occurrences`);
    - places come in ascending order, each behind what was matched at the one before
      (`pairwise_occurrences`);
    - nothing is passed over: what is matched at a place is found, unless something that was found
      before reaches over the place (`mem_occurrences_or_covered`).

    A step of a search either passes over one character or takes what is matched, and each fact is
    proved for these two steps (`search_induction`).
-/

namespace SourceCensus.Recogniser

variable {r : Recogniser} {t u rest : Text} {c : Char} {n o : Nat}

/-- What a recogniser matches at a place of a text. -/
def matchAt (r : Recogniser) (t : Text) (i : Nat) : Option Nat := r (t.take i).getLast? (t.drop i)

theorem matchAt_length (u t : Text) : r.matchAt (u ++ t) u.length = r u.getLast? t := by
  rw [matchAt, List.take_left, List.drop_left]

/-! ## Steps of a search -/

/-- What a search finds in the text `t` when it has gone through the text `u`. -/
def foundAhead (r : Recogniser) (u t : Text) : List Nat :=
  r.occurrencesFrom u.getLast? u.length t

@[simp] theorem foundAhead_nil (u : Text) : r.foundAhead u [] = [] := by
  rw [foundAhead, occurrencesFrom]

theorem foundAhead_of_none (h : r u.getLast? (c :: rest) = none) :
    r.foundAhead u (c :: rest) = r.foundAhead (u ++ [c]) rest := by
  rw [foundAhead, occurrencesFrom, h, foundAhead, List.getLast?_concat, List.length_append]
  rfl

theorem foundAhead_of_some (h : r u.getLast? (c :: rest) = some n) :
    r.foundAhead u (c :: rest) =
      u.length :: r.foundAhead (u ++ c :: rest.take (n - 1)) (rest.drop (n - 1)) := by
  rw [foundAhead, occurrencesFrom, h]
  by_cases hn : n - 1 ≤ rest.length
  · -- the search goes on behind what was matched
    have hlast : (u ++ c :: rest.take (n - 1)).getLast? = ((c :: rest)[n - 1]? <|> some c) := by
      have hinside : n - 1 < (c :: rest).length := Nat.lt_succ_of_le hn
      rw [List.getLast?_append, ← List.take_succ_cons, List.getLast?_take,
        if_neg (Nat.succ_ne_zero _), Nat.add_sub_cancel, List.getElem?_eq_getElem hinside]
      rfl
    have hlength : (u ++ c :: rest.take (n - 1)).length = u.length + 1 + (n - 1) := by
      simp only [List.length_append, List.length_cons, List.length_take]
      omega
    rw [foundAhead, hlast, hlength]
  · -- the match reaches over the end, and nothing is left to search
    have hnil : rest.drop (n - 1) = [] := List.drop_eq_nil_of_le (by omega)
    simp only [hnil, occurrencesFrom, foundAhead]

/-- **Induction along a search.** It stands behind the text `u` it has gone through. What it takes
    is never empty, and is all that is left where a match reaches over the end. -/
theorem search_induction {motive : Text → Text → List Nat → Prop}
    (nil : ∀ u, motive u [] [])
    (skip : ∀ u c rest, r u.getLast? (c :: rest) = none →
      motive (u ++ [c]) rest (r.foundAhead (u ++ [c]) rest) →
      motive u (c :: rest) (r.foundAhead (u ++ [c]) rest))
    (take : ∀ (u w rest : Text) (n : Nat), w ≠ [] → r u.getLast? (w ++ rest) = some n →
      (n ≤ w.length ∨ rest = []) → w.length ≤ max 1 n →
      motive (u ++ w) rest (r.foundAhead (u ++ w) rest) →
      motive u (w ++ rest) (u.length :: r.foundAhead (u ++ w) rest))
    (u t : Text) : motive u t (r.foundAhead u t) := by
  induction hlength : t.length using Nat.strongRecOn generalizing u t with
  | ind m ih =>
    cases t with
    | nil =>
      rw [foundAhead_nil]
      exact nil u
    | cons c rest =>
      rw [List.length_cons] at hlength
      cases hmatch : r u.getLast? (c :: rest) with
      | none =>
        rw [foundAhead_of_none hmatch]
        exact skip u c rest hmatch (ih rest.length (by omega) (u ++ [c]) rest rfl)
      | some n =>
        -- a match takes at least the character right ahead, and no more than there are
        have hsplit : c :: rest.take (n - 1) ++ rest.drop (n - 1) = c :: rest := by
          rw [List.cons_append, List.take_append_drop]
        have hdrop : (rest.drop (n - 1)).length < m := by
          rw [List.length_drop]
          omega
        have hrest := ih _ hdrop (u ++ c :: rest.take (n - 1)) _ rfl
        rw [foundAhead_of_some hmatch, ← hsplit]
        rw [← hsplit] at hmatch
        apply take u _ _ n (List.cons_ne_nil _ _) hmatch _ _ hrest
        · rw [List.length_cons, List.length_take, List.drop_eq_nil_iff]
          omega
        · rw [List.length_cons, List.length_take]
          omega

/-! ## What is found -/

theorem matched_of_mem_foundAhead (u t : Text) :
    ∀ o ∈ r.foundAhead u t, u.length ≤ o ∧ (r.matchAt (u ++ t) o).isSome := by
  induction u, t using search_induction (r := r) with
  | nil u =>
    intro o ho
    exact absurd ho List.not_mem_nil
  | skip u c rest _ ih =>
    intro o ho
    have hstep := ih o ho
    rw [List.append_assoc, List.length_append] at hstep
    exact ⟨Nat.le_of_add_right_le hstep.1, hstep.2⟩
  | take u w rest n _ hmatch _ _ ih =>
    intro o ho
    rcases List.mem_cons.1 ho with rfl | ho
    · -- this is the place where the search stands
      rw [matchAt_length, hmatch]
      exact ⟨Nat.le_refl _, rfl⟩
    · have hstep := ih o ho
      rw [List.append_assoc, List.length_append] at hstep
      exact ⟨Nat.le_of_add_right_le hstep.1, hstep.2⟩

theorem pairwise_foundAhead (u t : Text) : (r.foundAhead u t).Pairwise
    fun o q => o < q ∧ ∀ n, r.matchAt (u ++ t) o = some n → o + n ≤ q := by
  induction u, t using search_induction (r := r) with
  | nil u => exact .nil
  | skip u c rest _ ih => rwa [List.append_assoc] at ih
  | take u w rest n hne hmatch hinside _ ih =>
    rw [List.append_assoc] at ih
    apply List.Pairwise.cons _ ih
    intro q hq
    have hbehind := (matched_of_mem_foundAhead (u ++ w) rest q hq).1
    have hpos := List.length_pos_iff.2 hne
    rw [List.length_append] at hbehind
    refine ⟨by omega, ?_⟩
    intro m hm
    rw [matchAt_length, hmatch, Option.some.injEq] at hm
    rcases hinside with hle | rfl
    · omega
    · -- nothing is found behind the end
      rw [foundAhead_nil] at hq
      exact absurd hq List.not_mem_nil

theorem mem_foundAhead_or_covered (u t : Text) : ∀ o, u.length ≤ o → o < (u ++ t).length →
    (r.matchAt (u ++ t) o).isSome → o ∈ r.foundAhead u t ∨
      ∃ q ∈ r.foundAhead u t, ∃ n, r.matchAt (u ++ t) q = some n ∧ q < o ∧ o < q + n := by
  -- on the search: it stands at the place, has passed it with a match, or comes to it later
  induction u, t using search_induction (r := r) with
  | nil u =>
    intro o hle hlt
    rw [List.append_nil] at hlt
    omega
  | skip u c rest hmatch ih =>
    intro o hle hlt hsome
    rw [List.append_assoc] at ih
    by_cases ho : o = u.length
    · -- nothing is matched where the search stands
      rw [ho, matchAt_length, hmatch] at hsome
      cases hsome
    · apply ih o _ hlt hsome
      rw [List.length_append, List.length_singleton]
      omega
  | take u w rest n _ hmatch _ hle ih =>
    intro o hfrom hlt hsome
    rw [List.append_assoc] at ih
    by_cases ho : o = u.length
    · exact .inl (ho ▸ List.mem_cons_self)
    · by_cases hin : o < u.length + w.length
      · -- the place lies in what the search takes
        refine .inr ⟨u.length, List.mem_cons_self, n, ?_, by omega, by omega⟩
        rw [matchAt_length, hmatch]
      · -- the place lies behind what the search takes
        have hbehind : (u ++ w).length ≤ o := by
          rw [List.length_append]
          omega
        rcases ih o hbehind hlt hsome with hmem | ⟨q, hq, hcovered⟩
        · exact .inl (List.mem_cons_of_mem _ hmem)
        · exact .inr ⟨q, List.mem_cons_of_mem _ hq, hcovered⟩

/-- **What is found is matched** at its place, whatever was found before it. -/
theorem isSome_of_mem_occurrences (ho : o ∈ r.occurrences t) : (r.matchAt t o).isSome :=
  (matched_of_mem_foundAhead [] t o ho).2

/-- **Places ascend,** each behind what was matched at the one before. -/
theorem pairwise_occurrences (r : Recogniser) (t : Text) : (r.occurrences t).Pairwise
    fun o q => o < q ∧ ∀ n, r.matchAt t o = some n → o + n ≤ q :=
  pairwise_foundAhead [] t

/-- What is found lies behind what was matched at each place before it. -/
theorem add_le_of_mem_occurrences {q : Nat} (hq : q ∈ r.occurrences t) (ho : o ∈ r.occurrences t)
    (hlt : q < o) (hmatch : r.matchAt t q = some n) : q + n ≤ o := by
  obtain ⟨i, hi, rfl⟩ := List.mem_iff_getElem.1 hq
  obtain ⟨j, hj, rfl⟩ := List.mem_iff_getElem.1 ho
  have hpair := List.pairwise_iff_getElem.1 (pairwise_occurrences r t)
  by_cases hij : i < j
  · exact (hpair i j hi hj hij).2 n hmatch
  · by_cases hji : j < i
    · have := (hpair j i hj hi hji).1
      omega
    · -- one place is not before itself
      obtain rfl : i = j := by omega
      exact absurd hlt (Nat.lt_irrefl _)

/-- **Nothing is passed over** but what lies in something that was found before. -/
theorem mem_occurrences_or_covered (ho : o < t.length) (hsome : (r.matchAt t o).isSome) :
    o ∈ r.occurrences t ∨
      ∃ q ∈ r.occurrences t, ∃ n, r.matchAt t q = some n ∧ q < o ∧ o < q + n :=
  mem_foundAhead_or_covered [] t o (Nat.zero_le o) ho hsome

end SourceCensus.Recogniser
