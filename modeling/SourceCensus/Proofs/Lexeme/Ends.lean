import SourceCensus.Proofs.Mask.Report

/-! # The end of a lexeme, place by place

    The readers of `SourceCensus.Lexeme` go through a body character by character, and an escape
    makes them take two at once. This file says where they stop without reading: a lexeme ends at
    the first place behind its opener at which something stands that can be seen there
    (`EndsAtFirst`), or with the text if there is no such place.

    - A line comment ends before the first line feed.
    - A block comment ends with the first star and slash.
    - A basic string ends with the first quote that has an even number of backslashes right before
      it. What carries the proof is that a reader is never between a backslash and what it takes
      in when the number of backslashes before it is even (`stopsAt_basicBody`).
    - A verbatim string ends with the first run of quotes of odd length, since a reader takes
      quotes in pairs (`stopsAt_verbatimBody`).
-/

namespace SourceCensus.Lexeme

open Text

variable {t u rest pre : Text} {l : Lexeme} {p : Placed} {c d : Char} {n start : Nat}

/-! ## Runs of a character -/

/-- How many of a character stand in a row at the end of a text. -/
def runAtEnd (c : Char) (t : Text) : Nat := (t.reverse.takeWhile (· = c)).length

theorem runAtEnd_concat (c : Char) (t : Text) (d : Char) :
    runAtEnd c (t ++ [d]) = if d = c then runAtEnd c t + 1 else 0 := by
  rw [runAtEnd, List.reverse_append, List.reverse_singleton, List.singleton_append,
    List.takeWhile_cons]
  by_cases hd : d = c
  · simp [hd, runAtEnd]
  · simp [hd]

theorem runAtEnd_self (c : Char) (t : Text) : runAtEnd c (t ++ [c]) = runAtEnd c t + 1 := by
  rw [runAtEnd_concat, if_pos rfl]

theorem runAtEnd_of_ne (h : d ≠ c) (t : Text) : runAtEnd c (t ++ [d]) = 0 := by
  rw [runAtEnd_concat, if_neg h]

/-! ## What ends a lexeme -/

/-- A line feed stands at a place. -/
def FeedAt (t : Text) (i : Nat) : Prop := t[i]? = some '\n'

/-- A star and a slash stand at a place. -/
def StarSlashAt (t : Text) (i : Nat) : Prop := t[i]? = some '*' ∧ t[i + 1]? = some '/'

/-- A quote with an even number of backslashes right before it stands at a place. -/
def FreeQuoteAt (t : Text) (i : Nat) : Prop :=
  t[i]? = some quote ∧ runAtEnd backslash (t.take i) % 2 = 0

/-- The last one of an odd number of quotes in a row stands at a place. -/
def OddQuotesEndAt (t : Text) (i : Nat) : Prop :=
  t[i]? = some quote ∧ t[i + 1]? ≠ some quote ∧ runAtEnd quote (t.take (i + 1)) % 2 = 1

/-- What begins at `start` ends `width` characters behind the first place that something holds of,
    and with the text if it holds of none. The places are counted from `start`, and nothing before
    `start` is looked at. -/
def EndsAtFirst (P : Text → Nat → Prop) (width : Nat) (t : Text) (start stop : Nat) : Prop :=
  (∃ i, P (t.drop start) i ∧ (∀ j < i, ¬ P (t.drop start) j) ∧ stop = start + i + width) ∨
    (∀ i, ¬ P (t.drop start) i) ∧ stop = t.length

/-- How a comment ends: with its line, or with the first star and slash. -/
def CommentEnds (t : Text) (p : Placed) : Prop :=
  t.slice p.start (p.start + 2) = ['/', '/'] ∧ EndsAtFirst FeedAt 0 t (p.start + 2) p.stop ∨
    t.slice p.start (p.start + 2) = ['/', '*'] ∧ EndsAtFirst StarSlashAt 2 t (p.start + 2) p.stop

/-- How a string ends: with the first free quote, or with the first odd run of quotes. -/
def StringEnds (t : Text) (p : Placed) : Prop :=
  t.slice p.start p.bodyStart ∈ basicOpeners ∧ EndsAtFirst FreeQuoteAt 1 t p.bodyStart p.stop ∨
    t.slice p.start p.bodyStart ∈ verbatimOpeners ∧
      EndsAtFirst OddQuotesEndAt 1 t p.bodyStart p.stop

/-- The body of a string is what stands between its opener and the quote that closes it, or the
    end of the text where none does. -/
def BodyBetween (t : Text) (p : Placed) : Prop :=
  p.lexeme.body = t.slice p.bodyStart p.bodyStop ∧
    (t.slice p.bodyStop p.stop = [quote] ∧ p.stop = p.bodyStop + 1 ∨
      p.bodyStop = p.stop ∧ p.stop = t.length)

/-! ## Stopping -/

/-- A reader that takes `n` characters of a text passes over no place that something holds of, and
    stops at such a place unless the text is at its end. -/
structure StopsAt (P : Nat → Prop) (t : Text) (n : Nat) : Prop where
  le_length : n ≤ t.length
  passes : ∀ i < n, ¬ P i
  stops : n < t.length → P n

theorem stopsAt_end (P : Nat → Prop) : StopsAt P [] 0 := by
  refine ⟨Nat.le_refl 0, ?_, ?_⟩
  · intro i hi
    exact absurd hi (Nat.not_lt_zero i)
  · intro h
    exact absurd h (Nat.lt_irrefl 0)

theorem stopsAt_here {P : Nat → Prop} (h : P 0) (t : Text) : StopsAt P t 0 := by
  refine ⟨Nat.zero_le _, ?_, fun _ => h⟩
  intro i hi
  exact absurd hi (Nat.not_lt_zero i)

theorem StopsAt.cons {P : Nat → Prop} (h0 : ¬ P 0) (h : StopsAt (fun i => P (i + 1)) t n)
    (c : Char) : StopsAt P (c :: t) (n + 1) := by
  refine ⟨Nat.succ_le_succ h.le_length, ?_, ?_⟩
  · intro i hi
    cases i with
    | zero => exact h0
    | succ i => exact h.passes i (Nat.lt_of_succ_lt_succ hi)
  · intro hn
    exact h.stops (Nat.lt_of_succ_lt_succ hn)

/-- **From readers to ends.** Where a reader stops is where its lexeme ends, with as much of a
    closing delimiter as the text has left. -/
theorem StopsAt.endsAtFirst {P : Text → Nat → Prop}
    (h : StopsAt (P (t.drop start)) (t.drop start) n) (width : Nat)
    (hP : ∀ i, P (t.drop start) i → i < (t.drop start).length ∧
      i + width ≤ (t.drop start).length) (hstart : start ≤ t.length) :
    EndsAtFirst P width t start (start + n + (((t.drop start).drop n).take width).length) := by
  have hlength : (t.drop start).length = t.length - start := List.length_drop
  have hle := h.le_length
  rw [List.length_take, List.length_drop]
  by_cases hn : n < (t.drop start).length
  · -- something holds of the place, and the delimiter is complete
    have hfits := (hP n (h.stops hn)).2
    exact .inl ⟨n, h.stops hn, h.passes, by omega⟩
  · refine .inr ⟨?_, by omega⟩
    intro i hi
    by_cases hin : i < n
    · exact h.passes i hin hi
    · have hinside := (hP i hi).1
      omega

/-! ## Where the readers stop -/

theorem lt_length_of_getElem? {i : Nat} (h : t[i]? = some c) : i < t.length :=
  (List.getElem?_eq_some_iff.1 h).1

theorem stopsAt_takeWhile (t : Text) :
    StopsAt (FeedAt t) t (t.takeWhile (· ≠ '\n')).length := by
  induction t with
  | nil => exact stopsAt_end _
  | cons c t ih =>
    by_cases hc : c = '\n'
    · rw [List.takeWhile_cons, if_neg (by simp [hc])]
      exact stopsAt_here (by simp [FeedAt, hc]) _
    · rw [List.takeWhile_cons, if_pos (by simp [hc])]
      exact ih.cons (by simp [FeedAt, hc]) c

theorem stopsAt_blockBody (t : Text) : StopsAt (StarSlashAt t) t (blockBody t).length := by
  fun_induction blockBody t with
  | case1 => exact stopsAt_end _
  | case2 c => exact (stopsAt_end _).cons (by simp [StarSlashAt]) c
  | case3 c d rest h => exact stopsAt_here (by simpa [StarSlashAt] using h) _
  | case4 c d rest h ih => exact ih.cons (by simpa [StarSlashAt] using h) c

/-- **Backslashes.** A basic string is read on from places with an even number of backslashes
    before them, here counted with the text `pre` that has been read. A plain character ends the
    row, and an escape adds two to it or ends it. -/
theorem stopsAt_basicBody (t : Text) (pre : Text) (hpre : runAtEnd backslash pre % 2 = 0) :
    StopsAt (fun i => t[i]? = some quote ∧ runAtEnd backslash (pre ++ t.take i) % 2 = 0) t
      (basicBody t).length := by
  have hdiff : backslash ≠ quote := by decide
  fun_induction basicBody t generalizing pre with
  | case1 => exact stopsAt_end _
  | case2 => exact stopsAt_here (by simpa using hpre) _
  | case3 c hq => exact (stopsAt_end _).cons (by simp [hq]) c
  | case4 d rest => exact stopsAt_here (by simpa using hpre) _
  | case5 d rest _ ih =>
    have hone := runAtEnd_self backslash pre
    have htwo : runAtEnd backslash (pre ++ [backslash] ++ [d]) % 2 = 0 := by
      rw [runAtEnd_concat]
      split
      · omega
      · rfl
    -- what the backslash takes in has an odd number of them before it
    refine StopsAt.cons (by simp [hdiff]) (StopsAt.cons ?_ ?_ d) backslash
    · rintro ⟨-, heven⟩
      have hodd : runAtEnd backslash (pre ++ [backslash]) % 2 = 0 := by simpa using heven
      omega
    · simpa using ih _ htwo
  | case6 c d rest hq hb ih =>
    -- a plain character ends the row of backslashes, which was even anyway
    have hnone := runAtEnd_of_ne hb pre
    refine StopsAt.cons (by simp [hq]) ?_ c
    simpa using ih (pre ++ [c]) (by rw [hnone])

/-- **Quotes.** A verbatim string is read on from places with an even number of quotes before them,
    so a run of quotes that ends further on is read in pairs and is of even length. -/
theorem stopsAt_verbatimBody (t : Text) (pre : Text) (hpre : runAtEnd quote pre % 2 = 0) :
    StopsAt (fun i => t[i]? = some quote ∧ t[i + 1]? ≠ some quote ∧
      runAtEnd quote (pre ++ t.take (i + 1)) % 2 = 1) t (verbatimBody t).length := by
  have hone := runAtEnd_self quote pre
  fun_induction verbatimBody t generalizing pre with
  | case1 => exact stopsAt_end _
  | case2 =>
    refine stopsAt_here ⟨rfl, by simp, ?_⟩ _
    simp only [List.take_succ_cons, List.take_nil]
    omega
  | case3 c hq => exact (stopsAt_end _).cons (by simp [hq]) c
  | case4 rest ih =>
    have htwo : runAtEnd quote (pre ++ [quote] ++ [quote]) % 2 = 0 := by
      rw [runAtEnd_self]
      omega
    -- behind the first quote of a pair the run goes on, and behind the second it is even
    refine StopsAt.cons (by simp) (StopsAt.cons ?_ ?_ quote) quote
    · rintro ⟨-, -, hodd⟩
      have : runAtEnd quote (pre ++ [quote] ++ [quote]) % 2 = 1 := by simpa using hodd
      omega
    · simpa using ih _ htwo (runAtEnd_self quote _)
  | case5 d rest hd =>
    -- the quote stands alone, so with it the run is odd
    refine stopsAt_here ⟨rfl, by simpa using hd, ?_⟩ _
    simp only [List.take_succ_cons, List.take_zero]
    omega
  | case6 c d rest hq ih =>
    have hnone := runAtEnd_of_ne hq pre
    refine StopsAt.cons (by simp [hq]) ?_ c
    simpa using ih (pre ++ [c]) (by rw [hnone]) (runAtEnd_self quote _)

/-! ## Lexemes in place -/

/-- A string is its opener, and what its own reader takes of the rest. -/
theorem string_of_read? (h : read? u = some l) (hkind : l.kind = .stringLiteral) :
    ∃ rest, u = l.opener ++ rest ∧ l.closer = (rest.drop l.body.length).take 1 ∧
      (l.opener ∈ basicOpeners ∧ l.body = basicBody rest ∨
        l.opener ∈ verbatimOpeners ∧ l.body = verbatimBody rest) := by
  cases stringAt_of_readString? (readString?_of_kind h hkind) with
  | @basic opener rest hmem => exact ⟨rest, rfl, rfl, .inl ⟨hmem, rfl⟩⟩
  | @verbatim opener rest hmem => exact ⟨rest, rfl, rfl, .inr ⟨hmem, rfl⟩⟩

/-- A comment is its opener, and what its own reader takes of the rest. -/
theorem comment_of_read? (h : read? u = some l) (hkind : l.kind = .comment) :
    ∃ rest, u = l.opener ++ rest ∧
      (l.opener = ['/', '/'] ∧ l.body = rest.takeWhile (· ≠ '\n') ∧ l.closer = [] ∨
        l.opener = ['/', '*'] ∧ l.body = blockBody rest ∧
          l.closer = (rest.drop l.body.length).take 2) := by
  have hread := readComment?_of_kind h hkind
  unfold readComment? at hread
  split at hread
  · rename_i a b rest
    split at hread
    · rename_i hab
      cases hread
      simp only [Bool.and_eq_true, decide_eq_true_eq] at hab
      exact ⟨rest, rfl, .inl ⟨by rw [hab.1, hab.2], rfl, rfl⟩⟩
    · split at hread
      · rename_i hab
        cases hread
        simp only [Bool.and_eq_true, decide_eq_true_eq] at hab
        exact ⟨rest, rfl, .inr ⟨by rw [hab.1, hab.2], rfl, rfl⟩⟩
      · cases hread
  · cases hread

theorem stop_eq (p : Placed) :
    p.stop = p.bodyStart + p.lexeme.body.length + p.lexeme.closer.length := by
  rw [Placed.stop, Placed.bodyStart, size]
  omega

/-- What follows the opener of a lexeme in its text. -/
theorem drop_bodyStart (hp : p ∈ all t) : ∃ u, read? u = some p.lexeme ∧ p.bodyStart ≤ t.length ∧
    ∀ rest, u = p.lexeme.opener ++ rest → t.drop p.bodyStart = rest := by
  obtain ⟨before, after, ht, hstart, hread⟩ := exists_append_of_mem_scan hp
  have hbody : p.bodyStart = (before ++ p.lexeme.opener).length := by
    rw [Placed.bodyStart, hstart, List.length_append, Nat.zero_add]
  refine ⟨_, hread, ?_, ?_⟩
  · rw [hbody, ht, text]
    simp only [List.length_append]
    omega
  · intro rest hrest
    rw [hbody, ht, hrest, ← List.append_assoc, List.drop_left]

theorem commentEnds_of_mem_all (hp : p ∈ all t) (hkind : p.lexeme.kind = .comment) :
    CommentEnds t p := by
  obtain ⟨hopener, -, -, -⟩ := slices_of_mem_all hp
  obtain ⟨u, hread, hle, hdrop⟩ := drop_bodyStart hp
  obtain ⟨rest, hu, hcases⟩ := comment_of_read? hread hkind
  obtain rfl := hdrop rest hu
  have htwo : p.bodyStart = p.start + 2 := by
    rw [Placed.bodyStart]
    rcases hcases with ⟨ho, -⟩ | ⟨ho, -⟩ <;> rw [ho] <;> rfl
  rw [CommentEnds, ← htwo, hopener, stop_eq p]
  rcases hcases with ⟨ho, hb, hc⟩ | ⟨ho, hb, hc⟩
  · refine .inl ⟨ho, ?_⟩
    have hend := (stopsAt_takeWhile (t.drop p.bodyStart)).endsAtFirst 0
      (fun i hi => ⟨lt_length_of_getElem? hi, Nat.le_of_lt (lt_length_of_getElem? hi)⟩) hle
    rw [hc, hb]
    simpa only [List.take_zero] using hend
  · refine .inr ⟨ho, ?_⟩
    have hend := (stopsAt_blockBody (t.drop p.bodyStart)).endsAtFirst 2
      (fun i hi => ⟨lt_length_of_getElem? hi.1, lt_length_of_getElem? hi.2⟩) hle
    rw [hc, hb]
    exact hend

theorem stringEnds_of_mem_all (hp : p ∈ all t) (hkind : p.lexeme.kind = .stringLiteral) :
    StringEnds t p := by
  obtain ⟨hopener, -, -, -⟩ := slices_of_mem_all hp
  obtain ⟨u, hread, hle, hdrop⟩ := drop_bodyStart hp
  obtain ⟨rest, hu, hcloser, hcases⟩ := string_of_read? hread hkind
  obtain rfl := hdrop rest hu
  rw [StringEnds, hopener, stop_eq p, hcloser]
  -- nothing of the body has been read yet, so no backslash or quote is counted before it
  rcases hcases with ⟨ho, hb⟩ | ⟨ho, hb⟩
  · have hstops := stopsAt_basicBody (t.drop p.bodyStart) [] rfl
    have hend := StopsAt.endsAtFirst (P := FreeQuoteAt) hstops 1
      (fun i hi => ⟨lt_length_of_getElem? hi.1, lt_length_of_getElem? hi.1⟩) hle
    rw [hb]
    exact .inl ⟨ho, hend⟩
  · have hstops := stopsAt_verbatimBody (t.drop p.bodyStart) [] rfl
    have hend := StopsAt.endsAtFirst (P := OddQuotesEndAt) hstops 1
      (fun i hi => ⟨lt_length_of_getElem? hi.1, lt_length_of_getElem? hi.1⟩) hle
    rw [hb]
    exact .inr ⟨ho, hend⟩

/-- **A lexeme ends where the language says.** A comment is a line comment up to the next line feed
    or a block comment up to the first star and slash. A string with a basic opener ends with the
    first quote behind an even number of backslashes, and one with a verbatim opener with the first
    odd run of quotes. Each ends with the text if there is no such place. The body of a string is
    what stands between its opener and that quote, and it is this stretch that masking reports. -/
theorem lexeme_ends_at_first (hnormal : '\r' ∉ t) (hp : p ∈ all t) :
    (p.lexeme.kind = .comment → CommentEnds t p) ∧
    (p.lexeme.kind = .stringLiteral → StringEnds t p ∧ BodyBetween t p ∧
      Masked.stringReport t p ∈ (Masked.ofText t).tokens) := by
  refine ⟨commentEnds_of_mem_all hp, ?_⟩
  intro hkind
  obtain ⟨-, hbody, -, -⟩ := slices_of_mem_all hp
  refine ⟨stringEnds_of_mem_all hp hkind, ⟨hbody.symm, stringCloser_of_mem_all hp hkind⟩, ?_⟩
  -- the tokens of masking report the strings of this scan
  rw [Masked.tokens_ofText_eq_reports, normalizeNewlines_of_not_mem hnormal]
  exact List.mem_append_right _ (List.mem_map_of_mem (mem_ofKind.2 ⟨hp, hkind⟩))

/-- A verbatim string whose body begins and ends with a pair of quotes. -/
def pairsOfQuotes : Text :=
  ['=', '$', '@', quote, quote, quote, 'a', quote, quote, quote, ';', quote]

/-- The string in it. -/
def stringOfPairs : Placed :=
  ⟨1, ⟨.stringLiteral, ['$', '@', quote], [quote, quote, 'a', quote, quote], [quote]⟩⟩

theorem lexeme_ends_at_first_pairsOfQuotes :
    '\r' ∉ pairsOfQuotes ∧ stringOfPairs ∈ all pairsOfQuotes ∧
    (stringOfPairs.lexeme.kind = .comment → CommentEnds pairsOfQuotes stringOfPairs) ∧
    (stringOfPairs.lexeme.kind = .stringLiteral → StringEnds pairsOfQuotes stringOfPairs ∧
      BodyBetween pairsOfQuotes stringOfPairs ∧
      Masked.stringReport pairsOfQuotes stringOfPairs ∈ (Masked.ofText pairsOfQuotes).tokens) := by
  have hnormal : '\r' ∉ pairsOfQuotes := by decide
  have hp : stringOfPairs ∈ all pairsOfQuotes := by decide +kernel
  exact ⟨hnormal, hp, lexeme_ends_at_first hnormal hp⟩

end SourceCensus.Lexeme
