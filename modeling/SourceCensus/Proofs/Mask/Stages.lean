import SourceCensus.Proofs.Mask.Veil
import SourceCensus.Proofs.Text.Lines
import SourceCensus.Proofs.Text.Spans

/-! # Two stages, one scan

    Masking scans a text twice: for comments, with literals stepped over, and then for
    literals in what the first stage left. The main statement, `stages_eq_scan`, says that the
    second scan finds exactly the literals that the first one stepped over, at the same
    offsets, so that the tokens of both stages are those of one list of lexemes.

    A scan for lexemes of any kind finds in the concealed text what was not concealed
    (`scanFrom_conceal`). There is no comment left, so the second scan, which does not know
    comments, finds the same (`scanFrom_readLiteral?`).

    Each stage blanks the lexemes that it has found in the very text it blanks, so it never steps
    outside that text (`stages_stay_inside`).
-/

namespace SourceCensus

namespace Lexeme

variable {t : Text} {offset : Nat}

/-! ## Texts without comments -/

/-- Where the lexemes of a text are all literals, a scan for literals finds them. -/
theorem scanFrom_readLiteral? (h : ∀ p ∈ scanFrom read? offset t, p.lexeme.kind ≠ .comment) :
    scanFrom readLiteral? offset t = scanFrom read? offset t := by
  induction offset, t using scan_induction with
  | nil offset => rw [scanFrom]
  | skip offset c rest hread ih =>
    rw [scanFrom_of_none _ (read?_eq_none_iff.1 hread).1, ih h]
  | take offset l after hpos hread ih =>
    have hkind : l.kind ≠ .comment := h _ List.mem_cons_self
    have hliteral : readLiteral? (l.text ++ after) = some l := by
      rcases read?_eq_some_iff.1 hread with hread | ⟨-, hread⟩
      · exact hread
      · exact absurd (readComment?_eq_some hread).1 hkind
    rw [scanFrom_of_some _ hpos hliteral, ih (fun p hp => h p (List.mem_cons_of_mem _ hp))]

end Lexeme

/-! ## The tokens of masking -/

namespace Masked

open Lexeme

/-- The literals that the second stage looks at are those of the one scan. -/
theorem literals_comments (t : Text) :
    literals (comments t).text = (all t).filter fun p => p.lexeme.kind ≠ .comment := by
  have hscan : scanFrom read? 0 (comments t).text =
      (all t).filter fun p => !decide (p.lexeme.kind = .comment) := by
    rw [text_comments]
    exact scanFrom_conceal _ 0 t
  have hliteral : ∀ p ∈ scanFrom read? 0 (comments t).text, p.lexeme.kind ≠ .comment := by
    intro p hp
    rw [hscan] at hp
    simpa using (List.mem_filter.1 hp).2
  rw [literals, scanFrom_readLiteral? hliteral, hscan]
  simp only [ne_eq, decide_not]

/-- Both stages number lines alike, since no line feed moves. -/
theorem lineIndex_comments (t : Text) :
    LineIndex.ofText (comments t).text = LineIndex.ofText t := by
  rw [text_comments]
  exact (veiled_conceal _ t).quieted.lineIndex_eq

/-- The second stage removes the strings of the one scan. -/
theorem strings_comments (t : Text) :
    strings (comments t).text =
      ofLexemes .stringLiteral stringToken (all t) (comments t).text := by
  have hkinds : ((all t).filter fun p => p.lexeme.kind ≠ .comment).filter
      (fun p => p.lexeme.kind = .stringLiteral) =
      (all t).filter fun p => p.lexeme.kind = .stringLiteral := by
    rw [List.filter_filter]
    refine List.filter_congr fun p _ => ?_
    cases p.lexeme.kind <;> rfl
  rw [strings, ofLexemes, literals_comments, hkinds, ofLexemes]

theorem tokens_strings_comments (t : Text) :
    (strings (comments t).text).tokens =
      ((all t).filter fun p => p.lexeme.kind = .stringLiteral).map
        (stringToken (LineIndex.ofText t)) := by
  rw [strings_comments, ofLexemes, lineIndex_comments]

/-- The tokens of masking describe the comments of the one scan and then its strings. -/
theorem tokens_ofText (t : Text) :
    (ofText t).tokens =
      ((all t.normalizeNewlines).filter fun p => p.lexeme.kind = .comment).map
        (commentToken (LineIndex.ofText t.normalizeNewlines)) ++
      ((all t.normalizeNewlines).filter fun p => p.lexeme.kind = .stringLiteral).map
        (stringToken (LineIndex.ofText t.normalizeNewlines)) := by
  rw [ofText, tokens_strings_comments]
  rfl

/-! ## The text of masking -/

/-- Spans of lexemes as a caller of `Text.blank?` writes them. -/
def spansOf (kind : LexemeKind) (lexemes : List Placed) : List (Int × Int) :=
  (lexemes.filter fun p => p.lexeme.kind = kind).map fun p => ((p.start : Int), (p.stop : Int))

theorem blank?_ofLexemes {lexemes : List Placed} {t : Text} (h : ∀ p ∈ lexemes, p.stop ≤ t.length)
    (kind : LexemeKind) (describe : LineIndex → Placed → Token) :
    t.blank? (spansOf kind lexemes) = .ok (ofLexemes kind describe lexemes t).text := by
  have hspans : ∀ s ∈ (lexemes.filter fun p => p.lexeme.kind = kind).map Placed.span,
      s.2 ≤ t.length := by
    intro s hs
    obtain ⟨p, hp, rfl⟩ := List.mem_map.1 hs
    exact h p (List.mem_filter.1 hp).1
  have hblank := Text.blank?_offsets hspans
  rw [List.map_map] at hblank
  exact hblank

/-- **No stage steps outside its text:** the spans that each stage blanks lie in the text that it
    gets, so blanking them cannot fail. -/
theorem stages_stay_inside (t : Text) :
    t.blank? (spansOf .comment (all t)) = .ok (comments t).text ∧
      (comments t).text.blank? (spansOf .stringLiteral (literals (comments t).text)) =
        .ok (strings (comments t).text).text := by
  have hinside : ∀ p ∈ all t, p.stop ≤ t.length := by
    intro p hp
    have := stop_le_of_mem_scan hp
    omega
  constructor
  · exact blank?_ofLexemes hinside _ _
  · apply blank?_ofLexemes
    intro p hp
    rw [literals_comments] at hp
    rw [comments, ofLexemes, Text.length_blank]
    exact hinside p (List.mem_filter.1 hp).1

/-- **Masking conceals** all lexemes but the character literals. -/
theorem text_ofText (t : Text) :
    (ofText t).text = conceal (· ≠ .charLiteral) t.normalizeNewlines := by
  have hstages : (ofText t).text = t.normalizeNewlines.blank
      ((((all t.normalizeNewlines).filter fun p => p.lexeme.kind = .comment) ++
        (all t.normalizeNewlines).filter fun p => p.lexeme.kind = .stringLiteral).map
          Placed.span) := by
    rw [List.map_append, ← Text.blank_blank]
    simp only [ofText]
    rw [strings_comments]
    rfl
  rw [hstages]
  apply blank_eq_conceal
  intro p
  rw [List.mem_append, List.mem_filter, List.mem_filter, ← and_or_left]
  -- what is no character literal is a comment or a string
  cases p.lexeme.kind <;> simp

/-- **Masking keeps the layout:** it draws a veil over the text. -/
theorem veiled_ofText (t : Text) : Veiled t.normalizeNewlines (ofText t).text := by
  rw [text_ofText]
  exact veiled_conceal _ _

/-- **Two masking stages equal one scan.** The literals of a text whose comments are blank are
    the literals of the text itself, each with its start and its characters, and masking
    reports the comments and then the strings of that one list of lexemes. -/
theorem stages_eq_scan (t : Text) (h : '\r' ∉ t) :
    literals (comments t).text = (all t).filter (fun p => p.lexeme.kind ≠ .comment) ∧
    (ofText t).tokens =
      ((all t).filter fun p => p.lexeme.kind = .comment).map (commentToken (LineIndex.ofText t)) ++
      ((all t).filter fun p => p.lexeme.kind = .stringLiteral).map
        (stringToken (LineIndex.ofText t)) := by
  refine ⟨literals_comments t, ?_⟩
  simp only [ofText, Text.normalizeNewlines_of_not_mem h]
  rw [tokens_strings_comments]
  rfl

/-- A character literal with the opener of a comment in it, a string with two slashes, a comment
    with an apostrophe, and a verbatim string that is never closed. -/
def mixedLexemes : Text :=
  [apostrophe, backslash, '/', '*', apostrophe, quote, '/', '/', quote, '/', '*', apostrophe, '*',
    '/', '@', quote, quote, quote, apostrophe]

theorem stages_eq_scan_mixedLexemes :
    '\r' ∉ mixedLexemes ∧
    literals (comments mixedLexemes).text =
      (all mixedLexemes).filter (fun p => p.lexeme.kind ≠ .comment) ∧
    (ofText mixedLexemes).tokens =
      ((all mixedLexemes).filter fun p => p.lexeme.kind = .comment).map
        (commentToken (LineIndex.ofText mixedLexemes)) ++
      ((all mixedLexemes).filter fun p => p.lexeme.kind = .stringLiteral).map
        (stringToken (LineIndex.ofText mixedLexemes)) :=
  ⟨by decide, stages_eq_scan mixedLexemes (by decide)⟩

end Masked

end SourceCensus
