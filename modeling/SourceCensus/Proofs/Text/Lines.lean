import SourceCensus.Text.Line

/-! # Lines and line feeds

    A text has one line more than it has line feeds (`length_lines`), and its index has one entry
    for each of them (`length_breaksFrom`).

    A lookup by bisection answers with a line of the text whatever offset it is given
    (`lineOf_ofText`): an offset behind the end lies on the last line. The answer is one more than
    the number of line feeds before the offset (`lineOf_eq`).
-/

namespace SourceCensus

namespace Text

/-! ## Line endings -/

theorem joinPairs_of_not_mem {t : Text} (h : '\r' ∉ t) : joinPairs t = t := by
  fun_induction joinPairs t with
  | case1 => rfl
  | case2 rest ih => simp at h
  | case3 c rest _ ih => rw [ih (fun hmem => h (List.mem_cons_of_mem c hmem))]

/-- Without carriage returns there is nothing to normalize. -/
theorem normalizeNewlines_of_not_mem {t : Text} (h : '\r' ∉ t) : t.normalizeNewlines = t := by
  have hkeep : ∀ c ∈ t, feedOfReturn c = c := by
    intro c hc
    have hne : c ≠ '\r' := fun heq => h (heq ▸ hc)
    rw [feedOfReturn, if_neg hne]
  rw [normalizeNewlines, joinPairs_of_not_mem h]
  exact (List.map_congr_left hkeep).trans (List.map_id t)

/-- No carriage return is left. -/
theorem not_mem_normalizeNewlines (t : Text) : '\r' ∉ t.normalizeNewlines := by
  intro hmem
  obtain ⟨c, -, hc⟩ := List.mem_map.1 hmem
  rw [feedOfReturn] at hc
  by_cases heq : c = '\r'
  · rw [if_pos heq] at hc
    exact absurd hc (by decide)
  · rw [if_neg heq] at hc
    exact heq hc

/-! ## Counting -/

theorem feeds_cons (c : Char) (t : Text) :
    feeds (c :: t) = feeds t + if c = '\n' then 1 else 0 := by
  unfold feeds
  rw [List.count_cons]
  simp only [beq_iff_eq]

theorem feeds_append (t u : Text) : feeds (t ++ u) = feeds t + feeds u := List.count_append

/-- Lines are separated by the line feeds. -/
theorem length_lines (t : Text) : t.lines.length = t.feeds + 1 := by
  induction t with
  | nil => rfl
  | cons c rest ih =>
    unfold lines
    rw [feeds_cons]
    by_cases hc : c = '\n'
    · rw [if_pos hc, if_pos hc, List.length_cons, ih]
    · rw [if_neg hc, if_neg hc, Nat.add_zero, ← ih]
      cases hlines : lines rest with
      | nil =>
        rw [hlines] at ih
        cases ih
      | cons l ls => rfl

theorem countLines_of_ne_nil {t : Text} (h : t ≠ []) : t.countLines = t.feeds + 1 := by
  unfold countLines
  rw [if_neg]
  simpa using h

/-- An offset behind the end counts like the end. -/
theorem lineNumber_eq (t : Text) (i : Nat) : t.lineNumber i = feeds (t.take i) + 1 := by
  have hclip : t.clip i = min i t.length := if_neg (by omega)
  rw [lineNumber, hclip, ← List.take_eq_take_min]

end Text

namespace LineIndex

/-- The index of a text has an entry for each line feed. -/
theorem length_breaksFrom (offset : Nat) (t : Text) : (breaksFrom offset t).length = t.feeds := by
  induction t generalizing offset with
  | nil => rfl
  | cons c rest ih =>
    unfold breaksFrom
    rw [Text.feeds_cons]
    by_cases hc : c = '\n'
    · rw [if_pos hc, if_pos hc, List.length_cons, ih]
    · rw [if_neg hc, if_neg hc, ih, Nat.add_zero]

/-- A search between two bounds answers with one of the places from the first to the last. -/
theorem bisect_between (a : Array Nat) (i : Int) (lo hi : Nat) (h : lo ≤ hi) :
    lo ≤ bisect a i lo hi ∧ bisect a i lo hi ≤ hi := by
  fun_induction bisect a i lo hi with
  | case1 lo hi hlt mid hle ih =>
    have hmid : mid = (lo + hi) / 2 := rfl
    have := ih (by omega)
    omega
  | case2 lo hi hlt mid hgt ih =>
    have hmid : mid = (lo + hi) / 2 := rfl
    have := ih (by omega)
    omega
  | case3 lo hi hge => omega

/-- **A lookup stays among the lines** of a text, whatever the offset. -/
theorem lineOf_ofText (t : Text) (i : Int) :
    1 ≤ (ofText t).lineOf i ∧ (ofText t).lineOf i ≤ t.feeds + 1 := by
  have hsize : (ofText t).breaks.size = t.feeds := length_breaksFrom 0 t
  have hbetween := bisect_between (ofText t).breaks i 0 (ofText t).breaks.size (Nat.zero_le _)
  unfold lineOf
  omega

/-! ## Lookup and counting -/

/-- The line feeds of a text are those of its first part and then those of the rest. -/
theorem breaksFrom_append (offset : Nat) (t u : Text) :
    breaksFrom offset (t ++ u) = breaksFrom offset t ++ breaksFrom (offset + t.length) u := by
  induction t generalizing offset with
  | nil => rfl
  | cons c t ih =>
    have hoffset : offset + (c :: t).length = offset + 1 + t.length := by
      rw [List.length_cons]
      omega
    rw [List.cons_append, breaksFrom, breaksFrom, ih, hoffset]
    by_cases hc : c = '\n'
    · rw [if_pos hc, if_pos hc, List.cons_append]
    · rw [if_neg hc, if_neg hc]

/-- Every entry is an offset of the text. -/
theorem mem_breaksFrom {offset b : Nat} {t : Text} (h : b ∈ breaksFrom offset t) :
    offset ≤ b ∧ b < offset + t.length := by
  induction t generalizing offset with
  | nil => cases h
  | cons c t ih =>
    rw [breaksFrom] at h
    rw [List.length_cons]
    by_cases hc : c = '\n'
    · rw [if_pos hc] at h
      rcases List.mem_cons.1 h with rfl | h
      · omega
      · have := ih h
        omega
    · rw [if_neg hc] at h
      have := ih h
      omega

/-- Where the entries below `n` are small and those from `n` on are not, a search finds `n`. -/
theorem bisect_eq {a : Array Nat} {i : Int} {n : Nat}
    (hbelow : ∀ j (hj : j < a.size), j < n → (a[j] : Int) < i)
    (hfrom : ∀ j (hj : j < a.size), n ≤ j → i ≤ (a[j] : Int))
    {lo hi : Nat} (hlo : lo ≤ n) (hhi : n ≤ hi) (hsize : hi ≤ a.size) :
    bisect a i lo hi = n := by
  -- on the calls of the search: the answer stays between its two ends
  fun_induction bisect a i lo hi with
  | case1 lo hi hlt mid hle ih =>
    have hmid : mid = (lo + hi) / 2 := rfl
    have hin : mid < a.size := by omega
    rw [Array.getElem?_eq_getElem hin, Option.getD_some] at hle
    -- the entry in the middle is not small, so the answer lies at or before it
    have hn : n ≤ mid := by
      apply Nat.le_of_not_lt
      intro hlow
      have := hbelow mid hin hlow
      omega
    exact ih hlo hn (by omega)
  | case2 lo hi hlt mid hgt ih =>
    have hmid : mid = (lo + hi) / 2 := rfl
    have hin : mid < a.size := by omega
    rw [Array.getElem?_eq_getElem hin, Option.getD_some] at hgt
    have hn : mid < n := by
      apply Nat.lt_of_not_le
      intro hhigh
      have := hfrom mid hin hhigh
      omega
    exact ih hn hhi hsize
  | case3 lo hi hge => omega

/-- **A lookup counts the line feeds** before the offset. -/
theorem lineOf_eq (t : Text) (i : Nat) : (ofText t).lineOf i = Text.feeds (t.take i) + 1 := by
  -- the index lists the line feeds of both parts, and those of the first part come first
  have hsplit : breaksFrom 0 t =
      breaksFrom 0 (t.take i) ++ breaksFrom (t.take i).length (t.drop i) := by
    have h := breaksFrom_append 0 (t.take i) (t.drop i)
    rwa [List.take_append_drop, Nat.zero_add] at h
  have hcount : (breaksFrom 0 (t.take i)).length = Text.feeds (t.take i) := length_breaksFrom 0 _
  have hsize : (ofText t).breaks.size = (breaksFrom 0 t).length := List.size_toArray
  have hentry : ∀ j (hj : j < (ofText t).breaks.size),
      (breaksFrom 0 t)[j]? = some (ofText t).breaks[j] := by
    intro j hj
    exact List.getElem?_eq_getElem _
  unfold lineOf
  rw [bisect_eq (n := Text.feeds (t.take i))]
  · -- the entries of the first part lie before the offset
    intro j hj hlt
    have hget := hentry j hj
    rw [hsplit, List.getElem?_append_left (by omega)] at hget
    have hbounds := mem_breaksFrom (List.mem_of_getElem? hget)
    rw [List.length_take] at hbounds
    omega
  · -- and those of the second part do not
    intro j hj hle
    have hget := hentry j hj
    rw [hsplit, List.getElem?_append_right (by omega)] at hget
    have hmem := List.mem_of_getElem? hget
    have hbounds := mem_breaksFrom hmem
    rw [List.length_take, List.length_drop] at hbounds
    omega
  · exact Nat.zero_le _
  · rw [hsize, hsplit, List.length_append, hcount]
    omega
  · exact Nat.le_refl _

/-- Offsets of the first part of a text lie on the lines of that part. -/
theorem lineOf_append_left {t : Text} {i : Nat} (h : i ≤ t.length) (u : Text) :
    (ofText (t ++ u)).lineOf i = (ofText t).lineOf i := by
  rw [lineOf_eq, lineOf_eq, List.take_append_of_le_length h]

/-- Offsets of the second part lie so many lines further down as the first part has line feeds. -/
theorem lineOf_append_right (t u : Text) (i : Nat) :
    (ofText (t ++ u)).lineOf ((t.length + i : Nat) : Int) = (ofText u).lineOf i + t.feeds := by
  rw [lineOf_eq, lineOf_eq, List.take_length_add_append, Text.feeds_append]
  omega

/-- **Bisection and counting agree** on every offset from zero on. -/
theorem lineOf_eq_lineNumber (t : Text) (i : Nat) : (ofText t).lineOf i = t.lineNumber i := by
  rw [lineOf_eq, Text.lineNumber_eq]

end LineIndex

end SourceCensus
