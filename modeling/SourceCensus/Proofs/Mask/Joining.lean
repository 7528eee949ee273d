import SourceCensus.Proofs.Lexeme.LineBreak
import SourceCensus.Proofs.Mask.Report
import SourceCensus.Proofs.Token

/-! # Masking joined texts

    Masking can be done piece by piece. Where two texts are joined by a line feed and the first
    leaves no string and no block comment open, the joined text is masked like its two parts, and
    its tokens are those of the parts, with the second part's tokens so many lines further down
    (`mask_append_feed`). The comments of both parts come first and the strings of both follow, as
    they do in every masked text.
-/

namespace SourceCensus

namespace Token

/-- The same token so many lines further down. -/
def movedDown (lines : Nat) (tok : Token) : Token := { tok with line := tok.line + lines }

end Token

open Text

/-! ## The masked text -/

namespace Lexeme

variable {t : Text}

/-- Joined texts are concealed one after the other if all is closed in the first. -/
theorem conceal_append_feed (hidden : LexemeKind → Bool) (u : Text)
    (hterminated : ∀ p ∈ all t, p.lexeme.Terminated) :
    conceal hidden (t ++ '\n' :: u) = conceal hidden t ++ '\n' :: conceal hidden u := by
  -- the scan that is followed starts anywhere
  suffices h : ∀ offset, (∀ p ∈ scanFrom read? offset t, p.lexeme.Terminated) →
      conceal hidden (t ++ '\n' :: u) = conceal hidden t ++ '\n' :: conceal hidden u from
    h 0 hterminated
  clear hterminated
  intro offset hterminated
  induction offset, t using scan_induction with
  | nil offset =>
    -- the line feed between the texts begins no lexeme
    have hfeed : read? ([] ++ '\n' :: u) = none := read?_append_feed_eq_none rfl u
    rw [List.nil_append] at hfeed ⊢
    rw [conceal_of_none hfeed, conceal_nil, List.nil_append]
  | skip offset c rest hread ih =>
    have hnone := read?_append_feed_eq_none hread u
    rw [List.cons_append] at hnone ⊢
    rw [conceal_of_none hnone, conceal_of_none hread, ih hterminated, List.cons_append]
  | take offset l after hpos hread ih =>
    -- what is closed in the first text is read there as it was alone
    have hl := hterminated ⟨offset, l⟩ List.mem_cons_self
    have hrest := ih fun p hp => hterminated p (List.mem_cons_of_mem _ hp)
    rw [List.append_assoc, conceal_of_some hpos (read?_append_feed hread hl u),
      conceal_of_some hpos hread, hrest, List.append_assoc]

end Lexeme

namespace Masked

open Lexeme

variable {t : Text} {p : Placed}

/-! ## The tokens -/

/-- The comments of a masked text are told by the comments of the scan. -/
theorem tokensOf_comment_ofText (t : Text) :
    tokensOf .comment (ofText t).tokens =
      (ofKind .comment t.normalizeNewlines).map
        (commentToken (LineIndex.ofText t.normalizeNewlines)) := by
  have hcomment : ∀ index p, (commentToken index p).kind = .comment := fun _ _ => rfl
  have hstring : ∀ index p, (stringToken index p).kind ≠ .comment := fun _ _ => nofun
  rw [tokens_ofText, tokensOf_append, tokensOf_map_of_forall_eq (hcomment _),
    tokensOf_map_of_forall_ne (hstring _), List.append_nil]
  rfl

/-- The strings of a masked text are told by the strings of the scan. -/
theorem tokensOf_string_ofText (t : Text) :
    tokensOf .stringLiteral (ofText t).tokens =
      (ofKind .stringLiteral t.normalizeNewlines).map
        (stringToken (LineIndex.ofText t.normalizeNewlines)) := by
  have hcomment : ∀ index p, (commentToken index p).kind ≠ .stringLiteral := fun _ _ => nofun
  have hstring : ∀ index p, (stringToken index p).kind = .stringLiteral := fun _ _ => rfl
  rw [tokens_ofText, tokensOf_append, tokensOf_map_of_forall_ne (hcomment _),
    tokensOf_map_of_forall_eq (hstring _), List.nil_append]
  rfl

/-- The tokens of a masked text are its comments and then its strings. -/
theorem tokens_ofText_eq_append (t : Text) :
    (ofText t).tokens =
      tokensOf .comment (ofText t).tokens ++ tokensOf .stringLiteral (ofText t).tokens := by
  rw [tokensOf_comment_ofText, tokensOf_string_ofText, tokens_ofText]
  rfl

/-! ### Lines of joined texts -/

/-- A lookup in the first part of joined texts. -/
theorem lineOf_feed_left {i : Nat} (hi : i ≤ t.length) (u : Text) :
    (LineIndex.ofText (t ++ '\n' :: u)).lineOf i = (LineIndex.ofText t).lineOf i :=
  LineIndex.lineOf_append_left hi _

/-- A lookup in the second part of joined texts. -/
theorem lineOf_feed_right (t u : Text) (i : Nat) :
    (LineIndex.ofText (t ++ '\n' :: u)).lineOf ((t.length + 1 + i : Nat) : Int) =
      (LineIndex.ofText u).lineOf i + (t.feeds + 1) := by
  -- the line feed in the middle counts with the first part
  have h := LineIndex.lineOf_append_right (t ++ ['\n']) u i
  rw [List.append_assoc, List.length_append, feeds_append] at h
  exact h

/-- The lexemes of one kind of joined texts, described one by one: those of the first part, and
    those of the second so many lines further down. -/
theorem map_describe_append_feed {describe : LineIndex → Placed → Token} {u : Text}
    (kind : LexemeKind) (hterminated : ∀ p ∈ all t, p.lexeme.Terminated)
    (hfirst : ∀ p ∈ all t,
      describe (LineIndex.ofText (t ++ '\n' :: u)) p = describe (LineIndex.ofText t) p)
    (hsecond : ∀ p, describe (LineIndex.ofText (t ++ '\n' :: u)) (p.moved (t.length + 1)) =
      (describe (LineIndex.ofText u) p).movedDown (t.feeds + 1)) :
    (ofKind kind (t ++ '\n' :: u)).map (describe (LineIndex.ofText (t ++ '\n' :: u))) =
      (ofKind kind t).map (describe (LineIndex.ofText t)) ++
        ((ofKind kind u).map (describe (LineIndex.ofText u))).map
          (Token.movedDown (t.feeds + 1)) := by
  -- the scan of the joined texts is that of the one and then that of the other, moved
  have hsplit : ofKind kind (t ++ '\n' :: u) =
      ofKind kind t ++ (ofKind kind u).map (Placed.moved (t.length + 1)) := by
    rw [ofKind, all_append_feed t u hterminated, List.filter_append, List.filter_map]
    rfl
  rw [hsplit, List.map_append, List.map_map, List.map_map]
  congr 1
  · apply List.map_congr_left
    intro p hp
    exact hfirst p (mem_ofKind.1 hp).1
  · apply List.map_congr_left
    intro p _
    exact hsecond p

theorem comments_append_feed (u : Text) (hterminated : ∀ p ∈ all t, p.lexeme.Terminated) :
    (ofKind .comment (t ++ '\n' :: u)).map
        (commentToken (LineIndex.ofText (t ++ '\n' :: u))) =
      (ofKind .comment t).map (commentToken (LineIndex.ofText t)) ++
        ((ofKind .comment u).map (commentToken (LineIndex.ofText u))).map
          (Token.movedDown (t.feeds + 1)) := by
  apply map_describe_append_feed .comment hterminated
  · intro p hp
    have hinside := inside_of_mem_all hp
    rw [commentToken, lineOf_feed_left (by omega)]
    rfl
  · intro p
    rw [commentToken, Placed.moved, lineOf_feed_right]
    rfl

theorem strings_append_feed (u : Text) (hterminated : ∀ p ∈ all t, p.lexeme.Terminated) :
    (ofKind .stringLiteral (t ++ '\n' :: u)).map
        (stringToken (LineIndex.ofText (t ++ '\n' :: u))) =
      (ofKind .stringLiteral t).map (stringToken (LineIndex.ofText t)) ++
        ((ofKind .stringLiteral u).map (stringToken (LineIndex.ofText u))).map
          (Token.movedDown (t.feeds + 1)) := by
  apply map_describe_append_feed .stringLiteral hterminated
  · intro p hp
    -- the opener of a lexeme ends in the text, as the lexeme does
    have hopener : p.bodyStart ≤ p.stop := by
      rw [Placed.bodyStart, Placed.stop, size]
      omega
    have hinside := inside_of_mem_all hp
    rw [stringToken, lineOf_feed_left (by omega)]
    rfl
  · intro p
    have hstart : (p.moved (t.length + 1)).bodyStart = t.length + 1 + p.bodyStart :=
      Nat.add_assoc ..
    rw [stringToken, hstart, lineOf_feed_right]
    rfl

/-! ## Masking piece by piece -/

/-- **Masking is compositional at line breaks.** Two texts joined by a line feed, the first of
    which leaves no string literal and no block comment open, are masked as they are each by
    itself. The tokens are the comments of the first, the comments of the second, the strings of
    the first and the strings of the second. Those of the second lie one line further down for
    each line feed of the first and one for the line feed in between. -/
theorem mask_append_feed {t u : Text} (ht : '\r' ∉ t) (hu : '\r' ∉ u)
    (hterminated : ∀ p ∈ all t, p.lexeme.Terminated) :
    (ofText (t ++ '\n' :: u)).text = (ofText t).text ++ '\n' :: (ofText u).text ∧
    (ofText (t ++ '\n' :: u)).tokens =
      tokensOf .comment (ofText t).tokens ++
      (tokensOf .comment (ofText u).tokens).map (Token.movedDown (t.feeds + 1)) ++
      (tokensOf .stringLiteral (ofText t).tokens ++
      (tokensOf .stringLiteral (ofText u).tokens).map (Token.movedDown (t.feeds + 1))) := by
  have hjoined : '\r' ∉ t ++ '\n' :: u := by
    have hne : '\r' ≠ '\n' := by decide
    rw [List.mem_append, List.mem_cons, not_or, not_or]
    exact ⟨ht, hne, hu⟩
  constructor
  · rw [text_ofText, text_ofText, text_ofText, normalizeNewlines_of_not_mem hjoined,
      normalizeNewlines_of_not_mem ht, normalizeNewlines_of_not_mem hu]
    exact conceal_append_feed _ u hterminated
  · rw [tokens_ofText_eq_append]
    simp only [tokensOf_comment_ofText, tokensOf_string_ofText,
      normalizeNewlines_of_not_mem hjoined, normalizeNewlines_of_not_mem ht,
      normalizeNewlines_of_not_mem hu]
    rw [comments_append_feed u hterminated, strings_append_feed u hterminated]

/-- A string with an escaped quote, a comment over two lines, a line comment with a quote and a
    dollar sign at the very end. -/
def closedLines : Text :=
  [quote, backslash, quote, quote, '/', '*', quote, '\n', '*', '/', '\n', '/', '/', quote, '$']

/-- A string over two lines that is never closed, with two slashes in it. -/
def openLines : Text := [quote, 'a', '\n', '/', '/']

theorem mask_append_feed_closedLines :
    '\r' ∉ closedLines ∧ '\r' ∉ openLines ∧ (∀ p ∈ all closedLines, p.lexeme.Terminated) ∧
    (ofText (closedLines ++ '\n' :: openLines)).text =
      (ofText closedLines).text ++ '\n' :: (ofText openLines).text ∧
    (ofText (closedLines ++ '\n' :: openLines)).tokens =
      tokensOf .comment (ofText closedLines).tokens ++
      (tokensOf .comment (ofText openLines).tokens).map
        (Token.movedDown (closedLines.feeds + 1)) ++
      (tokensOf .stringLiteral (ofText closedLines).tokens ++
      (tokensOf .stringLiteral (ofText openLines).tokens).map
        (Token.movedDown (closedLines.feeds + 1))) := by
  have hclosed : '\r' ∉ closedLines := by decide
  have hopen : '\r' ∉ openLines := by decide
  have hterminated : ∀ p ∈ all closedLines, p.lexeme.Terminated := by decide +kernel
  exact ⟨hclosed, hopen, hterminated, mask_append_feed hclosed hopen hterminated⟩

end Masked

end SourceCensus
