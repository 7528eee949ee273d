import SourceCensus.Classification
import SourceCensus.Proofs.Lexeme.Interior
import SourceCensus.Proofs.Mask.Report

/-! # What is masked cannot be seen

    A character in the body of a comment or a string may be exchanged for another one, and nothing
    that is computed from the text changes: not the masked text, not the tokens of masking, and so
    none of the tokens of the text (`tokenize_set_interior`).

    A scan of the edited text finds the same lexemes with one character exchanged
    (`scanFrom_set`). That character is blank in the masked text either way, and a token tells no
    more of a lexeme than its place, its size and its line feeds.
-/

namespace SourceCensus

open Lexeme

variable {t : Text} {p : Placed} {i : Nat} {c : Char}

namespace Lexeme

/-- The body of any lexeme takes the edit as a quieter character, if it meets it at all. -/
theorem quieted_edit (hp : p ∈ all t) (hfeed : t[i]? ≠ some '\n') (hc : c ∉ endingMarks) :
    Quieted p.lexeme.body (p.edit i c).lexeme.body ∧
      Quieted p.lexeme.text (p.edit i c).lexeme.text := by
  unfold Placed.edit
  split
  · rename_i hfrom
    have hbody : Quieted p.lexeme.body (p.lexeme.body.set (i - p.bodyStart) c) := by
      apply Quieted.set
      intro a ha
      have hplace := getElem?_of_mem_all hp ha
      rw [Nat.add_sub_cancel' hfrom] at hplace
      apply quieter_of_not_mem_endingMarks _ hc
      rintro rfl
      exact hfeed hplace
    refine ⟨hbody, ?_⟩
    exact List.rel_append (List.rel_append (Quieted.refl _) hbody) (Quieted.refl _)
  · exact ⟨Quieted.refl _, Quieted.refl _⟩

/-- What is blank hides the edit. -/
theorem conceal_set {hidden : LexemeKind → Bool}
    (hall : all (t.set i c) = (all t).map (Placed.edit i c)) (hp : p ∈ all t)
    (hhidden : hidden p.lexeme.kind = true) (hcovers : p.Covers i) (hfeed : t[i]? ≠ some '\n')
    (hc : c ≠ '\n') : conceal hidden (t.set i c) = conceal hidden t := by
  -- the edit moves no lexeme, so the same places are covered
  have hsame : ∀ k, (∃ q ∈ all (t.set i c), hidden q.lexeme.kind = true ∧ q.Covers k) ↔
      ∃ q ∈ all t, hidden q.lexeme.kind = true ∧ q.Covers k := by
    intro k
    simp only [hall, List.mem_map, exists_exists_and_eq_and, Placed.edit_kind,
      Placed.edit_covers_iff]
  apply List.ext_getElem?
  intro k
  rw [getElem?_conceal, getElem?_conceal]
  simp only [hsame]
  by_cases hk : k = i
  · -- the place of the edit, which is covered
    subst hk
    have hin : k < t.length := by
      have := stop_le_of_mem_scan hp
      have := hcovers.2
      omega
    have hcovered : ∃ q ∈ all t, hidden q.lexeme.kind = true ∧ q.Covers k :=
      ⟨p, hp, hhidden, hcovers⟩
    have hchar : t[k]? = some t[k] := List.getElem?_eq_getElem hin
    rw [hchar] at hfeed
    have hne : t[k] ≠ '\n' := fun h => hfeed (congrArg some h)
    rw [if_pos hcovered, if_pos hcovered, List.getElem?_set_self hin, hchar]
    simp only [Option.map_some, Text.blankChar, if_neg hc, if_neg hne]
  · rw [List.getElem?_set_ne (Ne.symm hk)]

theorem not_mem_set (hreturn : '\r' ∉ t) (hc : c ∉ endingMarks) : '\r' ∉ t.set i c := by
  intro hmem
  rcases List.mem_or_eq_of_mem_set hmem with hmem | rfl
  · exact hreturn hmem
  · exact hc (by decide)

/-- The lexemes of the edited text are those of the text, one of them edited. -/
theorem all_set (hp : p ∈ all t) (hkind : p.lexeme.kind ≠ .charLiteral) (hfrom : p.bodyStart ≤ i)
    (hto : i < p.bodyStop) (hfeed : t[i]? ≠ some '\n')
    (hstring : p.lexeme.kind = .stringLiteral → t[i]? ≠ some quote ∧ t[i]? ≠ some backslash)
    (hc : c ∉ endingMarks) : all (t.set i c) = (all t).map (Placed.edit i c) := by
  rw [← Nat.zero_add i] at hfrom hto
  have h := scanFrom_set hp hkind hfrom hto hfeed hstring hc
  rwa [Nat.zero_add] at h

end Lexeme

namespace Masked

/-- The token of a comment does not tell what the comment says. -/
theorem commentToken_edit (index : LineIndex) (hp : p ∈ all t) (hfeed : t[i]? ≠ some '\n')
    (hc : c ∉ endingMarks) :
    commentToken index (p.edit i c) = commentToken index p := by
  have hfeeds := (quieted_edit hp hfeed hc).2.feeds_eq
  simp only [commentToken, Placed.edit_start, Placed.edit_size, hfeeds]

/-- The token of a string does not tell what the string says. -/
theorem stringToken_edit (index : LineIndex) (hp : p ∈ all t) (hfeed : t[i]? ≠ some '\n')
    (hc : c ∉ endingMarks) :
    stringToken index (p.edit i c) = stringToken index p := by
  have hbody := (quieted_edit hp hfeed hc).1
  simp only [stringToken, Placed.edit_bodyStart, hbody.feeds_eq, hbody.length_eq]

/-- The tokens of masking do not tell the edit. -/
theorem tokens_set (hreturn : '\r' ∉ t) (hall : all (t.set i c) = (all t).map (Placed.edit i c))
    (hfeed : t[i]? ≠ some '\n') (hc : c ∉ endingMarks) :
    (ofText (t.set i c)).tokens = (ofText t).tokens := by
  have hindex : LineIndex.ofText (t.set i c) = LineIndex.ofText t :=
    (quieted_set hfeed hc).lineIndex_eq
  -- an edited lexeme has the kind it had
  have hkinds : ∀ kind, ((all t).map (Placed.edit i c)).filter (fun q => q.lexeme.kind = kind) =
      ((all t).filter fun q => q.lexeme.kind = kind).map (Placed.edit i c) := by
    intro kind
    rw [List.filter_map]
    congr 1
    apply List.filter_congr
    intro q _
    simp
  rw [tokens_ofText, tokens_ofText, Text.normalizeNewlines_of_not_mem hreturn,
    Text.normalizeNewlines_of_not_mem (not_mem_set hreturn hc), hindex, hall, hkinds, hkinds,
    List.map_map, List.map_map]
  congr 1
  · apply List.map_congr_left
    intro q hq
    exact commentToken_edit _ (List.mem_filter.1 hq).1 hfeed hc
  · apply List.map_congr_left
    intro q hq
    exact stringToken_edit _ (List.mem_filter.1 hq).1 hfeed hc

/-- **Masking does not see the edit.** -/
theorem ofText_set (hreturn : '\r' ∉ t) (hp : p ∈ all t) (hkind : p.lexeme.kind ≠ .charLiteral)
    (hfrom : p.bodyStart ≤ i) (hto : i < p.bodyStop) (hfeed : t[i]? ≠ some '\n')
    (hstring : p.lexeme.kind = .stringLiteral → t[i]? ≠ some quote ∧ t[i]? ≠ some backslash)
    (hc : c ∉ endingMarks) : ofText (t.set i c) = ofText t := by
  have hall : all (t.set i c) = (all t).map (Placed.edit i c) :=
    all_set hp hkind hfrom hto hfeed hstring hc
  -- a character of the body is one of the lexeme
  have hcovers : p.Covers i := by
    unfold Placed.bodyStart at hfrom
    unfold Placed.bodyStop Placed.bodyStart at hto
    unfold Placed.Covers Placed.stop size
    omega
  have htext : (ofText (t.set i c)).text = (ofText t).text := by
    have hne : c ≠ '\n' := by
      rintro rfl
      exact hc (by decide)
    rw [text_ofText, text_ofText, Text.normalizeNewlines_of_not_mem hreturn,
      Text.normalizeNewlines_of_not_mem (not_mem_set hreturn hc)]
    exact conceal_set hall hp (by simpa using hkind) hcovers hfeed hne
  have htokens := tokens_set hreturn hall hfeed hc
  calc ofText (t.set i c)
      = ⟨(ofText (t.set i c)).text, (ofText (t.set i c)).tokens⟩ := rfl
    _ = ⟨(ofText t).text, (ofText t).tokens⟩ := by rw [htext, htokens]
    _ = ofText t := rfl

end Masked

/-- **Edits inside comments and strings are invisible.** A character in the body of a comment or a
    string is exchanged for one that ends neither a lexeme nor a line; it is no line feed itself,
    and in a string it is no quote and no backslash. The text has the same tokens as before, and
    masking gives the same text and the same tokens. -/
theorem tokenize_set_interior (hreturn : '\r' ∉ t) (hp : p ∈ all t)
    (hkind : p.lexeme.kind ≠ .charLiteral) (hfrom : p.bodyStart ≤ i) (hto : i < p.bodyStop)
    (hfeed : t[i]? ≠ some '\n')
    (hstring : p.lexeme.kind = .stringLiteral → t[i]? ≠ some quote ∧ t[i]? ≠ some backslash)
    (hc : c ∉ ['\n', '\r', apostrophe, quote, backslash, '*', '/']) :
    tokenize (t.set i c) = tokenize t ∧ Masked.ofText (t.set i c) = Masked.ofText t := by
  have hmasked : Masked.ofText (t.set i c) = Masked.ofText t :=
    Masked.ofText_set hreturn hp hkind hfrom hto hfeed hstring hc
  have hlines : Text.countLines (Text.normalizeNewlines (t.set i c)) =
      t.normalizeNewlines.countLines := by
    rw [Text.normalizeNewlines_of_not_mem hreturn,
      Text.normalizeNewlines_of_not_mem (not_mem_set hreturn hc)]
    exact (quieted_set hfeed hc).countLines_eq
  refine ⟨?_, hmasked⟩
  unfold tokenize
  rw [hmasked, hlines]

/-- A character literal is begun and not ended, and a comment with a keyword, a star and a quote in
    it follows. -/
def quoteInComment : Text :=
  [apostrophe, backslash, 'n', '+', '/', '*', 'i', 'f', '*', '#', quote, '*', '/', ';']

/-- The comment in it. -/
def commentWithQuote : Placed :=
  ⟨4, ⟨.comment, ['/', '*'], ['i', 'f', '*', '#', quote], ['*', '/']⟩⟩

theorem tokenize_set_interior_quoteInComment :
    '\r' ∉ quoteInComment ∧ commentWithQuote ∈ all quoteInComment ∧
      commentWithQuote.bodyStart ≤ 10 ∧ 10 < commentWithQuote.bodyStop ∧
      tokenize (quoteInComment.set 10 'x') = tokenize quoteInComment ∧
      Masked.ofText (quoteInComment.set 10 'x') = Masked.ofText quoteInComment := by
  have hp : commentWithQuote ∈ all quoteInComment := by decide +kernel
  exact ⟨by decide, hp, by decide, by decide,
    tokenize_set_interior (by decide) hp (by decide) (by decide) (by decide) (by decide)
      (by decide) (by decide)⟩

end SourceCensus
