import SourceCensus.Proofs.Lexeme.Extent

/-! # Where the lexemes of a text lie

    A scan either passes over one character or takes a lexeme and goes on behind it. So a fact
    about all scans is proved for these two steps (`scan_induction`). Three such facts say how the
    lexemes lie in the text:

    - each stands where it is said to stand, and is what a reader finds there
      (`exists_append_of_mem_scan`);
    - each ends before the next one begins (`pairwise_scan`);
    - nothing is left out: where no lexeme lies, none can be read (`read?_of_uncovered`).
-/

namespace SourceCensus.Lexeme

variable {t rest : Text} {c : Char} {l : Lexeme} {p : Placed} {offset i : Nat}

/-- The text behind a lexeme that has been read. -/
theorem text_append_drop (h : read? (c :: rest) = some l) :
    l.text ++ rest.drop (l.size - 1) = c :: rest := by
  obtain ⟨hpos, hpre⟩ := text_prefix_of_read? h
  have happ := List.prefix_iff_eq_append.1 hpre
  rw [length_text] at happ
  obtain ⟨n, hn⟩ : ∃ n, l.size = n + 1 := ⟨l.size - 1, by omega⟩
  rw [hn] at happ ⊢
  simpa using happ

/-- **Induction along a scan.** -/
theorem scan_induction {motive : Nat → Text → List Placed → Prop}
    (nil : ∀ offset, motive offset [] [])
    (skip : ∀ offset c rest, read? (c :: rest) = none →
      motive (offset + 1) rest (scanFrom read? (offset + 1) rest) →
      motive offset (c :: rest) (scanFrom read? (offset + 1) rest))
    (take : ∀ offset (l : Lexeme) after, 0 < l.size → read? (l.text ++ after) = some l →
      motive (offset + l.size) after (scanFrom read? (offset + l.size) after) →
      motive offset (l.text ++ after) (⟨offset, l⟩ :: scanFrom read? (offset + l.size) after))
    (offset : Nat) (t : Text) : motive offset t (scanFrom read? offset t) := by
  -- a lexeme takes several characters at once, so the length goes down by more than one
  induction hn : t.length using Nat.strongRecOn generalizing offset t with
  | ind n ih =>
    cases t with
    | nil =>
      rw [scanFrom]
      exact nil offset
    | cons c rest =>
      rw [List.length_cons] at hn
      cases hread : read? (c :: rest) with
      | none =>
        rw [scanFrom_of_none offset hread]
        exact skip offset c rest hread (ih rest.length (by omega) (offset + 1) rest rfl)
      | some l =>
        have hpos := (text_prefix_of_read? hread).1
        have htext := text_append_drop hread
        rw [← htext] at hread
        rw [← htext, scanFrom_of_some offset hpos hread]
        refine take offset l _ hpos hread (ih _ ?_ _ _ rfl)
        rw [List.length_drop]
        omega

/-! ## In place -/

namespace Placed

/-- The offset is that of a character of the lexeme. -/
def Covers (p : Placed) (i : Nat) : Prop := p.start ≤ i ∧ i < p.stop

instance (p : Placed) (i : Nat) : Decidable (p.Covers i) :=
  inferInstanceAs (Decidable (p.start ≤ i ∧ i < p.stop))

end Placed

/-- **A lexeme is in its place:** it follows as many characters as its offset says, and it is
    what a reader finds there. -/
theorem exists_append_of_mem_scan (h : p ∈ scanFrom read? offset t) :
    ∃ before after, t = before ++ (p.lexeme.text ++ after) ∧ p.start = offset + before.length ∧
      read? (p.lexeme.text ++ after) = some p.lexeme := by
  induction offset, t using scan_induction with
  | nil offset => cases h
  | skip offset c rest hread ih =>
    obtain ⟨before, after, rfl, hstart, hread⟩ := ih h
    refine ⟨c :: before, after, rfl, ?_, hread⟩
    rw [hstart, List.length_cons]
    omega
  | take offset l after hpos hread ih =>
    rcases List.mem_cons.1 h with rfl | h
    · exact ⟨[], after, rfl, rfl, hread⟩
    · obtain ⟨before, after, rfl, hstart, hread⟩ := ih h
      refine ⟨l.text ++ before, after, by rw [List.append_assoc], ?_, hread⟩
      rw [hstart, List.length_append, length_text, Nat.add_assoc]

/-- No lexeme begins before the text does. -/
theorem le_start_of_mem_scan (h : p ∈ scanFrom read? offset t) : offset ≤ p.start := by
  obtain ⟨before, after, -, hstart, -⟩ := exists_append_of_mem_scan h
  omega

theorem size_pos_of_mem_scan (h : p ∈ scanFrom read? offset t) : 0 < p.lexeme.size := by
  obtain ⟨before, after, -, -, hread⟩ := exists_append_of_mem_scan h
  exact (text_prefix_of_read? hread).1

theorem stop_le_of_mem_scan (h : p ∈ scanFrom read? offset t) : p.stop ≤ offset + t.length := by
  obtain ⟨before, after, rfl, hstart, -⟩ := exists_append_of_mem_scan h
  rw [List.length_append, List.length_append, length_text, Placed.stop, hstart]
  omega

/-- **Lexemes do not overlap,** and they come in the order of their offsets. -/
theorem pairwise_scan (offset : Nat) (t : Text) :
    (scanFrom read? offset t).Pairwise fun p q => p.stop ≤ q.start := by
  induction offset, t using scan_induction with
  | nil offset => exact .nil
  | skip offset c rest _ ih => exact ih
  | take offset l after _ _ ih =>
    refine .cons ?_ ih
    intro q hq
    exact le_start_of_mem_scan hq

/-- **Nothing is left out:** where no lexeme lies, none can be read. -/
theorem read?_of_uncovered (hi : i < t.length)
    (h : ∀ p ∈ scanFrom read? offset t, ¬ p.Covers (offset + i)) : read? (t.drop i) = none := by
  induction offset, t using scan_induction generalizing i with
  | nil offset => cases hi
  | skip offset c rest hread ih =>
    -- the place is here, where nothing is read, or further on
    cases i with
    | zero => exact hread
    | succ i =>
      refine ih (by simpa using hi) ?_
      intro p hp hcovers
      exact h p hp (by rwa [Nat.add_assoc, Nat.add_comm 1] at hcovers)
  | take offset l after hpos hread ih =>
    have hfirst : ¬ (offset ≤ offset + i ∧ offset + i < offset + l.size) := h _ List.mem_cons_self
    -- the place lies behind the first lexeme, since that one does not cover it
    have hbehind : l.size ≤ i := by omega
    obtain ⟨j, rfl⟩ := Nat.exists_eq_add_of_le hbehind
    have hdrop : (l.text ++ after).drop (l.size + j) = after.drop j := by
      rw [← length_text, List.drop_length_add_append]
    rw [hdrop]
    rw [List.length_append, length_text] at hi
    refine ih (by omega) ?_
    intro p hp hcovers
    exact h p (List.mem_cons_of_mem _ hp) (by rwa [Nat.add_assoc] at hcovers)

end SourceCensus.Lexeme
