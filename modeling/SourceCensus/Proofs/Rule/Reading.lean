import SourceCensus.Proofs.Rule.Grammar

/-! # Readers and languages

    A reader is right for a language if it finds nothing else, and finds each piece of the language
    whole where the text goes on in a certain way (`Reads`, `Takes`). What may follow is part of
    the statement: an identifier is read whole where no word character follows, and half of it never
    is. In the grammar a part may be followed by anything, so it is the next part that has to begin
    with a character that ends this one.

    Main results: `takes_repeated`, for pieces one after the other, and the readers of gaps,
    identifiers and words with gaps.
-/

namespace SourceCensus.Rule

open Text Vocabulary
open scoped Computability

variable {p q : Char → Bool} {t x y w : Text} {c : Char} {L : Language Char} {ws : List Text}
  {ends : Text → Prop}

/-! ## Languages -/

theorem mem_oneOf : x ∈ oneOf ws ↔ x ∈ ws := Iff.rfl

theorem append_mem_run (hx : x ∈ run p) (hy : y ∈ run p) : x ++ y ∈ run p := by
  intro c hc
  rcases List.mem_append.1 hc with hc | hc
  · exact hx c hc
  · exact hy c hc

theorem nil_mem_perhaps (L : Language Char) : [] ∈ perhaps L := .inl rfl

theorem mem_perhaps (hx : x ∈ L) : x ∈ perhaps L := .inr hx

theorem cons_mem_mul (c : Char) (hx : x ∈ L) : c :: x ∈ ({[c]} : Language Char) * L :=
  ⟨[c], rfl, x, hx, rfl⟩

theorem exists_of_mem_mul_cons (hx : x ∈ ({[c]} : Language Char) * L) : ∃ y ∈ L, x = c :: y := by
  obtain ⟨_, rfl, y, hy, rfl⟩ := hx
  exact ⟨y, hy, rfl⟩

theorem append_mem_kstar (hx : x ∈ L) (hy : y ∈ L∗) : x ++ y ∈ L∗ := by
  rw [← Language.one_add_self_mul_kstar_eq_kstar]
  exact .inr (Language.append_mem_mul hx hy)

/-- **Induction over an iteration**, from its last piece to its first. -/
theorem kstar_induction {P : Text → Prop} (hnil : P [])
    (happend : ∀ x ∈ L, ∀ y ∈ L∗, P y → P (x ++ y)) (hx : x ∈ L∗) : P x := by
  obtain ⟨pieces, rfl, hpieces⟩ := Language.mem_kstar.1 hx
  clear hx
  induction pieces with
  | nil => exact hnil
  | cons y ys ih =>
    have hys : ∀ z ∈ ys, z ∈ L := fun z hz => hpieces z (List.mem_cons_of_mem y hz)
    exact happend y (hpieces y List.mem_cons_self) _ (Language.join_mem_kstar hys) (ih hys)

theorem noneAhead_kstar (h : ∀ x ∈ L, NoneAhead p x) (hx : x ∈ L∗) : NoneAhead p x :=
  kstar_induction noneAhead_nil (fun y hy _ _ hz => (h y hy).append hz) hx

/-! ## Readers -/

/-- A reader finds only pieces of a language that stand at the front of the text, and finds each of
    them where the text goes on in a certain way. -/
structure Reads (read : Text → Option Text) (L : Language Char) (ends : Text → Prop) : Prop where
  sound {t x : Text} : read t = some x → x ∈ L ∧ x <+: t
  whole {x after : Text} : x ∈ L → ends after → read (x ++ after) = some x

/-- The same of a reader that always finds something. -/
structure Takes (take : Text → Text) (L : Language Char) (ends : Text → Prop) : Prop where
  sound (t : Text) : take t ∈ L ∧ take t <+: t
  whole {x after : Text} : x ∈ L → ends after → take (x ++ after) = x

theorem Reads.anywhere {read : Text → Option Text} (h : Reads read L fun _ => True) (hx : x ∈ L)
    (after : Text) : read (x ++ after) = some x :=
  h.whole hx trivial

theorem append_front (hx : x <+: t) (hy : y <+: t.drop x.length) : x ++ y <+: t := by
  obtain ⟨u, rfl⟩ := hx
  rw [List.drop_left] at hy
  exact (List.prefix_append_right_inj x).2 hy

/-- What is enclosed by two characters, and some of what follows. -/
theorem enclosed_front {d : Char} {u : Text} (hx : x <+: t) (hd : t.drop x.length = d :: u)
    (hy : y <+: u) : c :: (x ++ d :: y) <+: c :: t := by
  refine (List.prefix_cons_inj c).2 (append_front hx ?_)
  rw [hd]
  exact (List.prefix_cons_inj d).2 hy

theorem drop_append_append (x y t : Text) :
    (x ++ t).drop (x ++ y).length = t.drop y.length := by
  rw [List.length_append, List.drop_length_add_append]

theorem takes_takeWhile (p : Char → Bool) : Takes (List.takeWhile p) (run p) (NoneAhead p) where
  sound _ := ⟨fun _ hc => List.mem_takeWhile_imp hc, List.takeWhile_prefix p⟩
  whole hx hafter := takeWhile_append_of_noneAhead hx hafter

/-- A reader for pieces that all begin with one character finds nothing where it does not stand. -/
theorem Reads.eq_none {read : Text → Option Text} (h : Reads read ({[c]} * L) ends)
    (ht : NoneAhead (· = c) t) : read t = none := by
  cases hread : read t with
  | none => rfl
  | some x =>
    obtain ⟨hmem, u, rfl⟩ := h.sound hread
    obtain ⟨y, -, rfl⟩ := exists_of_mem_mul_cons hmem
    have hc : decide (c = c) = false := noneAhead_cons.1 ht
    simp at hc

/-- A piece that may be missing is missing where the reader fails. -/
theorem Reads.takes_getD {read : Text → Option Text} (h : Reads read L ends) :
    Takes (fun t => (read t).getD []) (perhaps L) (fun t => ends t ∧ read t = none) where
  sound t := by
    cases hread : read t with
    | none => exact ⟨nil_mem_perhaps L, List.nil_prefix⟩
    | some x => exact ⟨mem_perhaps (h.sound hread).1, (h.sound hread).2⟩
  whole := by
    rintro x after (rfl | hx) ⟨hends, hnone⟩
    · simp only [List.nil_append, hnone, Option.getD_none]
    · simp only [h.whole hx hends, Option.getD_some]

theorem Takes.mono {take : Text → Text} {ends' : Text → Prop} (h : Takes take L ends)
    (hends : ∀ t, ends' t → ends t) : Takes take L ends' where
  sound := h.sound
  whole hx hafter := h.whole hx (hends _ hafter)

/-- **Repetition.** Pieces that are never empty are taken one after the other, where each one ends
    before the next, and the last one where no other piece begins. -/
theorem takes_repeated {piece : Text → Option Text} (h : Reads piece L ends) (hnil : [] ∉ L)
    (hends : ∀ x ∈ L, ∀ u, ends (x ++ u)) :
    Takes (repeated piece) L∗ (fun after => ends after ∧ piece after = none) where
  sound t := by
    fun_induction repeated piece t with
    | case1 t hnone => exact ⟨Language.nil_mem_kstar L, List.nil_prefix⟩
    | case2 t p hp hempty => exact ⟨Language.nil_mem_kstar L, List.nil_prefix⟩
    | case3 t p hp hempty ih =>
      obtain ⟨hmem, hfront⟩ := h.sound hp
      exact ⟨append_mem_kstar hmem ih.1, append_front hfront ih.2⟩
  whole := by
    rintro x after hx ⟨hafter, hnone⟩
    -- whatever an iteration begins with, the piece before it ends there
    have hstep : ends (x ++ after) ∧ repeated piece (x ++ after) = x := by
      refine kstar_induction (P := fun x => ends (x ++ after) ∧ repeated piece (x ++ after) = x)
        ⟨hafter, ?_⟩ ?_ hx
      · rw [List.nil_append, repeated, hnone]
      · -- a piece is not empty, so the reader goes on behind it
        rintro y hy z - ⟨hz, ih⟩
        rw [List.append_assoc]
        refine ⟨hends y hy _, ?_⟩
        have hne : y ≠ [] := fun hy' => hnil (hy' ▸ hy)
        rw [repeated, h.whole hy hz]
        simp only [List.drop_left, ih]
        rw [if_neg (by simp [hne])]
    exact hstep.2

/-- The same of pieces that all begin with one character, before which each of them ends. -/
theorem takes_repeated_of_cons {piece : Text → Option Text} (h : Reads piece ({[c]} * L) ends)
    (hends : ∀ u, ends (c :: u)) :
    Takes (repeated piece) ({[c]} * L)∗ (fun t => ends t ∧ NoneAhead (· = c) t) := by
  refine (takes_repeated h ?_ ?_).mono fun t ht => ⟨ht.1, h.eq_none ht.2⟩
  · intro hnil
    obtain ⟨y, -, hy⟩ := exists_of_mem_mul_cons hnil
    cases hy
  · intro x hx u
    obtain ⟨y, -, rfl⟩ := exists_of_mem_mul_cons hx
    exact hends _

theorem noneAhead_kstar_cons (hp : p c = false) (hx : x ∈ ({[c]} * L)∗) : NoneAhead p x := by
  refine noneAhead_kstar ?_ hx
  intro y hy
  obtain ⟨z, -, rfl⟩ := exists_of_mem_mul_cons hy
  exact noneAhead_cons.2 hp

/-! ## Gaps and words -/

theorem isBlank_of_isGap (h : isGap c = true) : isBlank c = true := by
  simp only [isGap, Bool.or_eq_true, decide_eq_true_eq] at h
  rcases h with rfl | rfl <;> decide

theorem not_isWord_of_isGap (h : isGap c = true) : isWord c = false :=
  not_isWord_of_isBlank (isBlank_of_isGap h)

theorem noneAhead_run (h : ∀ c, p c = true → q c = false) (hx : x ∈ run p) : NoneAhead q x := by
  intro c hc
  exact h c (hx c (List.mem_of_mem_head? hc))

theorem noneAhead_append_of_ne_nil (hne : x ≠ []) (hx : NoneAhead q x) (t : Text) :
    NoneAhead q (x ++ t) := by
  obtain ⟨c, x, rfl⟩ := List.exists_cons_of_ne_nil hne
  exact noneAhead_cons.2 (noneAhead_cons.1 hx)

theorem takes_gap : Takes gap (run isGap) (NoneAhead isGap) := takes_takeWhile isGap

theorem reads_gap? : Reads gap? gaps (NoneAhead isGap) where
  sound {t x} h := by
    rw [gap?] at h
    split at h
    · cases h
    · rename_i hne
      cases h
      exact ⟨⟨by simpa using hne, (takes_gap.sound t).1⟩, (takes_gap.sound t).2⟩
  whole {x after} hx hafter := by
    have hgap : gap (x ++ after) = x := takes_gap.whole hx.2 hafter
    rw [gap?, hgap, if_neg (by simpa using hx.1)]

/-- A gap ends a word. -/
theorem noneAhead_gaps (hx : x ∈ gaps) (t : Text) : NoneAhead isWord (x ++ t) :=
  noneAhead_append_of_ne_nil hx.1 (noneAhead_run (fun _ h => not_isWord_of_isGap h) hx.2) t

theorem isWord_of_startsIdentifier (h : startsIdentifier c = true) : isWord c = true := by
  apply isWord_of_isAsciiWord
  simp only [startsIdentifier, Bool.or_eq_true] at h
  simp only [isAsciiWord, Bool.or_eq_true]
  tauto

theorem mem_run_of_mem_identifiers (h : x ∈ identifiers) : x ∈ run isWord := by
  obtain ⟨c, r, rfl, hc, hr⟩ := h
  intro d hd
  rcases List.mem_cons.1 hd with rfl | hd
  · exact isWord_of_startsIdentifier hc
  · exact hr d hd

theorem ne_nil_of_mem_identifiers (h : x ∈ identifiers) : x ≠ [] := by
  obtain ⟨c, r, rfl, -⟩ := h
  exact List.cons_ne_nil c r

/-- Word characters are ahead, and none that are apart from these. -/
theorem noneAhead_of_word (h : ∀ c, p c = true → isWord c = false) (hne : x ≠ [])
    (hx : ∀ c ∈ x, isWord c = true) (t : Text) : NoneAhead p (x ++ t) := by
  refine noneAhead_append_of_ne_nil hne (noneAhead_run ?_ hx) t
  intro c hc
  rw [← Bool.not_eq_true]
  intro hp
  exact Bool.false_ne_true ((h c hp).symm.trans hc)

/-- An identifier ends a gap. -/
theorem noneAhead_identifiers (hx : x ∈ identifiers) (t : Text) : NoneAhead isGap (x ++ t) :=
  noneAhead_of_word (fun _ h => not_isWord_of_isGap h) (ne_nil_of_mem_identifiers hx)
    (mem_run_of_mem_identifiers hx) t

theorem reads_identifier? : Reads identifier? identifiers (NoneAhead isWord) where
  sound {t x} h := by
    unfold identifier? at h
    split at h
    · rename_i c t
      split at h
      · rename_i hc
        cases h
        rw [List.takeWhile_cons_of_pos (isWord_of_startsIdentifier hc)]
        obtain ⟨hmem, hfront⟩ := (takes_takeWhile isWord).sound t
        exact ⟨⟨c, _, rfl, hc, hmem⟩, (List.prefix_cons_inj c).2 hfront⟩
      · cases h
    · cases h
  whole {x after} hx hafter := by
    have hrun := takeWhile_append_of_noneAhead (mem_run_of_mem_identifiers hx) hafter
    obtain ⟨c, r, rfl, hc, -⟩ := hx
    show (if startsIdentifier c then some ((c :: r ++ after).takeWhile isWord) else none) = _
    rw [if_pos hc, hrun]

theorem reads_wordAndGap? (hws : ∀ w ∈ ws, ∀ c ∈ w, isWord c = true) :
    Reads (wordAndGap? ws) (oneOf ws * gaps) (NoneAhead isGap) where
  sound {t x} h := by
    simp only [wordAndGap?] at h
    split at h
    · rename_i hword
      obtain ⟨g, hg, rfl⟩ := Option.map_eq_some_iff.1 h
      obtain ⟨hmem, hfront⟩ := reads_gap?.sound hg
      exact ⟨Language.append_mem_mul (List.contains_iff_mem.1 hword) hmem,
        append_front (List.takeWhile_prefix isWord) hfront⟩
    · cases h
  whole := by
    rintro _ after ⟨w, hw, g, hg, rfl⟩ hafter
    rw [List.append_assoc]
    have hword := takeWhile_append_of_noneAhead (hws w hw) (noneAhead_gaps hg after)
    simp only [wordAndGap?, hword, List.drop_left, reads_gap?.whole hg hafter]
    rw [if_pos (List.contains_iff_mem.2 hw), Option.map_some]

/-- Words with gaps behind them begin with a word. -/
theorem noneAhead_wordAndGap (h : ∀ c, p c = true → isWord c = false) (hne : ∀ w ∈ ws, w ≠ [])
    (hws : ∀ w ∈ ws, ∀ c ∈ w, isWord c = true) (hx : x ∈ oneOf ws * gaps) (t : Text) :
    NoneAhead p (x ++ t) := by
  obtain ⟨w, hw, g, -, rfl⟩ := hx
  rw [List.append_assoc]
  exact noneAhead_of_word h (hne w hw) (hws w hw) _

theorem nil_notMem_wordAndGap (ws : List Text) : [] ∉ oneOf ws * gaps := by
  rintro ⟨w, -, g, hg, hnil⟩
  exact hg.1 (List.append_eq_nil_iff.1 hnil).2

theorem wordAndGap?_eq_none (h : t.takeWhile isWord ∉ ws) : wordAndGap? ws t = none := by
  simp only [wordAndGap?]
  exact if_neg (by simpa using h)

/-! ## Words ahead -/

theorem isWord_of_all (h : ws.all (fun w => w.all isWord) = true) :
    ∀ w ∈ ws, ∀ c ∈ w, isWord c = true := by
  intro w hw
  exact List.all_eq_true.1 (List.all_eq_true.1 h w hw)

theorem bars_iff (hws : ∀ w ∈ ws, ∀ c ∈ w, isWord c = true) :
    Bars ws t ↔ t.takeWhile isWord ∈ ws := by
  constructor
  · rintro ⟨w, hw, rest, rfl, hrest⟩
    rwa [takeWhile_append_of_noneAhead (hws w hw) hrest]
  · intro h
    exact ⟨_, h, _, (takeWhile_append_drop isWord t).symm, noneAhead_drop_takeWhile isWord t⟩

theorem takeWhile_of_identifier? (h : identifier? t = some w) : t.takeWhile isWord = w := by
  unfold identifier? at h
  split at h
  · split at h
    · exact Option.some.inj h
    · cases h
  · cases h

end SourceCensus.Rule
