import SourceCensus.Mask
import SourceCensus.Proofs.Lexeme.Quiet
import SourceCensus.Proofs.Lexeme.Scan
import SourceCensus.Proofs.Text.Blanking

/-! # Lexemes behind a veil

    Blanking a lexeme draws a veil over it: a character stays or a space stands in its place,
    and line feeds stay where they are. `conceal` blanks the lexemes of some kinds during the very
    scan that finds them, which is the same as blanking their spans afterwards
    (`blank_eq_conceal`).

    A veiled text is a quieter one, and the first character that a veil changes is followed by a
    second one unless the text ends there, since only a quote at the end of a text is a lexeme of
    one character (`exists_cons_of_read?`). So no reader minds: a scan of the veiled text finds
    the lexemes that were not concealed, and no others (`scanFrom_conceal`).
-/

namespace SourceCensus

/-! ## Veiled texts -/

/-- The second character is the first one, or a space that stands for it. -/
def Veil (a b : Char) : Prop := b = a ∨ a ≠ '\n' ∧ b = ' '

/-- A text with spaces in the place of some of its characters, never of a line feed. -/
abbrev Veiled : Text → Text → Prop := List.Forall₂ Veil

theorem Veil.eq_of_ne_space {a b : Char} (h : Veil a b) (hb : b ≠ ' ') : a = b := by
  rcases h with rfl | ⟨-, rfl⟩
  · rfl
  · exact absurd rfl hb

theorem Veil.feed_iff {a b : Char} (h : Veil a b) : a = '\n' ↔ b = '\n' := by
  rcases h with rfl | ⟨ha, rfl⟩
  · rfl
  · exact iff_of_false ha (by decide)

theorem Veil.blankChar (c : Char) : Veil c (Text.blankChar c) := by
  by_cases hc : c = '\n'
  · left; simp [Text.blankChar, hc]
  · right; simp [Text.blankChar, hc]

theorem Veiled.refl (t : Text) : Veiled t t := List.forall₂_same.2 fun _ _ => .inl rfl

theorem Veiled.blank (t : Text) : Veiled t (t.map Text.blankChar) :=
  List.forall₂_map_right_iff.2 (List.forall₂_same.2 fun c _ => .blankChar c)

/-- A space ends no literal and opens none. -/
theorem Veil.quieter {a b : Char} (h : Veil a b) : Quieter a b where
  feed_iff := h.feed_iff
  eq_apostrophe := by
    rintro rfl
    exact h.eq_of_ne_space (by decide)
  eq_quote := by
    rintro rfl
    exact h.eq_of_ne_space (by decide)

theorem Veiled.quieted {t u : Text} (h : Veiled t u) : Quieted t u :=
  h.imp fun _ _ hab => hab.quieter

/-! ## Blanking during the scan -/

namespace Lexeme

variable {t rest after : Text} {c : Char} {l : Lexeme} {hidden : LexemeKind → Bool}

/-- What becomes of a lexeme when lexemes of some kinds are blanked. -/
def veil (hidden : LexemeKind → Bool) (l : Lexeme) : Text :=
  if hidden l.kind then l.text.map Text.blankChar else l.text

/-- The text with its lexemes of some kinds blank. -/
def conceal (hidden : LexemeKind → Bool) : Text → Text
  | [] => []
  | c :: rest =>
    match read? (c :: rest) with
    | none => c :: conceal hidden rest
    | some l => l.veil hidden ++ conceal hidden (rest.drop (l.size - 1))
termination_by t => t.length
decreasing_by all_goals simp +arith

theorem veil_of_hidden (h : hidden l.kind = true) : l.veil hidden = l.text.map Text.blankChar := by
  rw [veil, if_pos h]

theorem veil_of_not_hidden (h : ¬ hidden l.kind = true) : l.veil hidden = l.text := by
  rw [veil, if_neg h]

theorem veiled_veil (hidden : LexemeKind → Bool) (l : Lexeme) : Veiled l.text (l.veil hidden) := by
  unfold veil
  split
  · exact .blank _
  · exact .refl _

@[simp] theorem length_veil (hidden : LexemeKind → Bool) (l : Lexeme) :
    (l.veil hidden).length = l.size := by
  rw [← (veiled_veil hidden l).length_eq, length_text]

@[simp] theorem conceal_nil (hidden : LexemeKind → Bool) : conceal hidden [] = [] := by rw [conceal]

theorem conceal_of_none (h : read? (c :: rest) = none) :
    conceal hidden (c :: rest) = c :: conceal hidden rest := by
  rw [conceal, h]

theorem conceal_of_some (hpos : 0 < l.size) (h : read? (l.text ++ after) = some l) :
    conceal hidden (l.text ++ after) = l.veil hidden ++ conceal hidden after := by
  cases htext : l.text with
  | nil =>
    have : l.size = 0 := by rw [← length_text, htext]; rfl
    omega
  | cons c tail =>
    have hsize : l.size - 1 = tail.length := by rw [← length_text, htext]; rfl
    rw [htext] at h
    rw [List.cons_append] at h ⊢
    rw [conceal, h]
    simp only [hsize, List.drop_left]

theorem veiled_conceal (hidden : LexemeKind → Bool) (t : Text) : Veiled t (conceal hidden t) := by
  -- the scan that is followed starts anywhere
  suffices h : ∀ offset, Veiled t (conceal hidden t) from h 0
  intro offset
  induction offset, t using scan_induction with
  | nil _ =>
    rw [conceal_nil]
    exact .nil
  | skip _ c rest hread ih =>
    rw [conceal_of_none hread]
    exact .cons (.inl rfl) ih
  | take _ l after hpos hread ih =>
    rw [conceal_of_some hpos hread]
    exact List.rel_append (veiled_veil hidden l) ih

/-- **How a lexeme begins:** with a character that is no line feed, and a second one unless the
    text ends there. -/
theorem exists_cons_of_read? (h : read? (l.text ++ after) = some l) :
    ∃ c w, l.text = c :: w ∧ c ≠ '\n' ∧ (w = [] → after = []) := by
  have hpos := (text_prefix_of_read? h).1
  rw [← length_text] at hpos
  obtain ⟨c, w, htext⟩ := List.exists_cons_of_length_pos hpos
  refine ⟨c, w, htext, ?_, ?_⟩
  · rw [htext] at h
    rintro rfl
    exact absurd (mem_openingMarks_of_read? h) (by decide)
  · -- a lexeme of one character has no closer, and it is no comment
    rintro rfl
    have hone : l.text.length = 1 := by rw [htext]; rfl
    rcases read?_eq_some_iff.1 h with h | ⟨-, h⟩
    · -- an apostrophe closes a character literal, and a quote a string that is closed
      rcases readLiteral?_eq_some_iff.1 h with h | ⟨-, h⟩
      · obtain ⟨b, rest, -, -, rfl⟩ := readChar?_eq_some_iff.1 h
        simp [text] at hone
      · rcases (stringAt_of_readString? h).closed_or_open with ⟨rest, -, hl, -⟩ | ⟨hopen, -⟩
        · have hopener := List.length_pos_iff.2 (stringLiteral_of_readString? h).2.1
          rw [hl] at hone
          simp [text] at hone
          omega
        · simpa using hopen
    · -- a comment begins with two characters
      obtain ⟨-, hopener, -⟩ := readComment?_eq_some h
      rcases hopener with ho | ho <;> simp [text, ho] at hone

/-- A veil over the lexemes ahead keeps the character right ahead, or shows as blanks. -/
theorem sameFront_conceal (hidden : LexemeKind → Bool) (t : Text) :
    SameFront t (conceal hidden t) := by
  cases t with
  | nil =>
    rw [conceal_nil]
    exact .refl []
  | cons c rest =>
    cases hread : read? (c :: rest) with
    | none =>
      rw [conceal_of_none hread]
      exact .inl rfl
    | some l =>
      have hpos := (text_prefix_of_read? hread).1
      have htext := text_append_drop hread
      rw [← htext] at hread ⊢
      obtain ⟨d, w, hdw, hfeed, hend⟩ := exists_cons_of_read? hread
      rw [conceal_of_some hpos hread]
      by_cases hkind : hidden l.kind = true
      · -- the lexeme is hidden: its first character is a space, and the next one blank
        right
        rw [veil_of_hidden hkind, hdw, List.map_cons, List.cons_append]
        have hspace : Text.blankChar d = ' ' := by rw [Text.blankChar, if_neg hfeed]
        rw [hspace]
        refine ⟨_, rfl, ?_⟩
        cases w with
        | nil => simp [hend rfl]
        | cons e w =>
          rw [List.map_cons, List.cons_append, List.head?_cons, Text.blankChar]
          intro heq
          have happ := Option.some.inj heq
          split at happ
          · rename_i he
            rw [he] at happ
            exact absurd happ (by decide)
          · exact absurd happ (by decide)
      · -- the lexeme is left as it is, with its first character
        left
        rw [veil_of_not_hidden hkind, hdw, List.cons_append, List.cons_append, List.head?_cons,
          List.head?_cons]

/-! ## Scanning what is left -/

theorem read?_blankChar (c : Char) (rest : Text) : read? (Text.blankChar c :: rest) = none := by
  cases hread : read? (Text.blankChar c :: rest) with
  | none => rfl
  | some l =>
    have hmark := mem_openingMarks_of_read? hread
    rw [Text.blankChar] at hmark
    by_cases hc : c = '\n'
    · rw [if_pos hc, hc] at hmark
      exact absurd hmark (by decide)
    · rw [if_neg hc] at hmark
      exact absurd hmark (by decide)

theorem scanFrom_blank (offset : Nat) (w u : Text) :
    scanFrom read? offset (w.map Text.blankChar ++ u) = scanFrom read? (offset + w.length) u := by
  induction w generalizing offset with
  | nil => rfl
  | cons c w ih =>
    rw [List.map_cons, List.cons_append, scanFrom_of_none _ (read?_blankChar c _), ih,
      List.length_cons, Nat.add_assoc, Nat.add_comm 1]

/-- **What is concealed is gone, and nothing else changes:** a scan finds the lexemes of the other
    kinds where they were, and no more. -/
theorem scanFrom_conceal (hidden : LexemeKind → Bool) (offset : Nat) (t : Text) :
    scanFrom read? offset (conceal hidden t) =
      (scanFrom read? offset t).filter fun p => !hidden p.lexeme.kind := by
  induction offset, t using scan_induction with
  | nil offset =>
    rw [conceal_nil, scanFrom, List.filter_nil]
  | skip offset c rest hread ih =>
    have hnone := read?_cons_of_quieted (veiled_conceal hidden rest).quieted
      (sameFront_conceal hidden rest) hread
    rw [conceal_of_none hread, scanFrom_of_none _ hnone, ih]
  | take offset l after hpos hread ih =>
    rw [conceal_of_some hpos hread]
    by_cases hkind : hidden l.kind = true
    · -- blanks are left of the lexeme, and the scan passes over them
      rw [veil_of_hidden hkind, scanFrom_blank, length_text, ih,
        List.filter_cons_of_neg (by simpa using hkind)]
    · have hagain := read?_append_of_quieted hread (veiled_conceal hidden after).quieted
      rw [veil_of_not_hidden hkind, scanFrom_of_some _ hpos hagain, ih,
        List.filter_cons_of_pos (by simpa using hkind)]

/-! ## Spans and the scan -/

/-- Inside the first lexeme of a scan no other one lies. -/
theorem covered_inside_first {offset i : Nat} (hi : i < l.size) :
    (∃ p ∈ ⟨offset, l⟩ :: scanFrom read? (offset + l.size) after,
      hidden p.lexeme.kind = true ∧ p.Covers (offset + i)) ↔ hidden l.kind = true := by
  constructor
  · rintro ⟨p, hp, hkind, hcovers⟩
    rcases List.mem_cons.1 hp with rfl | hp
    · exact hkind
    · have := le_start_of_mem_scan hp
      have := hcovers.1
      omega
  · intro hkind
    refine ⟨⟨offset, l⟩, List.mem_cons_self, hkind, ?_, ?_⟩
    · exact Nat.le_add_right _ _
    · exact Nat.add_lt_add_left hi _

/-- The first lexeme of a scan does not reach what is behind it. -/
theorem covered_behind_first {offset i : Nat} (hi : l.size ≤ i) :
    (∃ p ∈ ⟨offset, l⟩ :: scanFrom read? (offset + l.size) after,
      hidden p.lexeme.kind = true ∧ p.Covers (offset + i)) ↔
    ∃ p ∈ scanFrom read? (offset + l.size) after,
      hidden p.lexeme.kind = true ∧ p.Covers (offset + l.size + (i - l.size)) := by
  have hoffset : offset + l.size + (i - l.size) = offset + i := by omega
  rw [hoffset]
  constructor
  · rintro ⟨p, hp, hkind, hcovers⟩
    rcases List.mem_cons.1 hp with rfl | hp
    · have hstop : offset + i < offset + l.size := hcovers.2
      omega
    · exact ⟨p, hp, hkind, hcovers⟩
  · rintro ⟨p, hp, hkind, hcovers⟩
    exact ⟨p, List.mem_cons_of_mem _ hp, hkind, hcovers⟩

/-- The text that is concealed during a scan from `offset` on. -/
theorem getElem?_conceal_scan (hidden : LexemeKind → Bool) (offset : Nat) (t : Text) (i : Nat) :
    (conceal hidden t)[i]? =
      if ∃ p ∈ scanFrom read? offset t, hidden p.lexeme.kind = true ∧ p.Covers (offset + i)
        then t[i]?.map Text.blankChar else t[i]? := by
  -- on the scan: what stands at a place is told by the first lexeme or by what follows
  induction offset, t using scan_induction generalizing i with
  | nil offset => simp
  | skip offset c rest hread ih =>
    rw [conceal_of_none hread]
    cases i with
    | zero =>
      rw [if_neg]
      · rfl
      · -- all lexemes begin further on
        rintro ⟨p, hp, -, hcovers⟩
        have := le_start_of_mem_scan hp
        have := hcovers.1
        omega
    | succ i =>
      have hoffset : offset + (i + 1) = offset + 1 + i := by omega
      rw [List.getElem?_cons_succ, List.getElem?_cons_succ, ih, hoffset]
  | take offset l after hpos hread ih =>
    rw [conceal_of_some hpos hread]
    by_cases hi : i < l.size
    · rw [List.getElem?_append_left (by simpa using hi),
        List.getElem?_append_left (by simpa using hi), veil]
      by_cases hkind : hidden l.kind = true
      · rw [if_pos hkind, if_pos ((covered_inside_first hi).2 hkind), List.getElem?_map]
      · rw [if_neg hkind, if_neg (fun h => hkind ((covered_inside_first hi).1 h))]
    · -- behind the first lexeme only the others count
      have hbehind : l.size ≤ i := by omega
      rw [List.getElem?_append_right (by simpa using hbehind),
        List.getElem?_append_right (by simpa using hbehind), length_veil, length_text, ih]
      simp only [covered_behind_first hbehind]

/-- **The concealed text, place by place:** blank where a lexeme of a hidden kind lies. -/
theorem getElem?_conceal (hidden : LexemeKind → Bool) (t : Text) (i : Nat) :
    (conceal hidden t)[i]? =
      if ∃ p ∈ all t, hidden p.lexeme.kind = true ∧ p.Covers i
        then t[i]?.map Text.blankChar else t[i]? := by
  have h := getElem?_conceal_scan hidden 0 t i
  simp only [Nat.zero_add] at h
  exact h

theorem covered_spans_iff {lexemes : List Placed} {i : Nat} :
    Text.Covered (lexemes.map Placed.span) i ↔ ∃ p ∈ lexemes, p.Covers i := by
  unfold Text.Covered
  simp only [List.mem_map, exists_exists_and_eq_and]
  rfl

/-- **Blanking spans is concealing:** spans that cover what the lexemes of the hidden kinds
    cover, in whatever order. -/
theorem blank_eq_conceal {lexemes : List Placed}
    (h : ∀ p, p ∈ lexemes ↔ p ∈ all t ∧ hidden p.lexeme.kind = true) :
    t.blank (lexemes.map Placed.span) = conceal hidden t := by
  apply List.ext_getElem?
  intro i
  have hcovered : Text.Covered (lexemes.map Placed.span) i ↔
      ∃ p ∈ all t, hidden p.lexeme.kind = true ∧ p.Covers i := by
    rw [covered_spans_iff]
    simp only [h, and_assoc]
  rw [Text.getElem?_blank, getElem?_conceal]
  simp only [hcovered]

end Lexeme

/-! ## The stages of masking -/

namespace Masked

open Lexeme

/-- **The first stage** conceals the comments. -/
theorem text_comments (t : Text) : (comments t).text = conceal (· = .comment) t := by
  apply blank_eq_conceal
  intro p
  rw [List.mem_filter]

end Masked

end SourceCensus
