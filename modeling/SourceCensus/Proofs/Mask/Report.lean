import SourceCensus.Proofs.Mask.Stages
import Mathlib.Data.List.Pairwise

/-! # What masking reports

    Masking is judged against the text with its line endings normalized, and against two lists of
    stretches of it: the comments and the string literals. `IsReport` says what has to hold: the
    stretches lie apart and in their order, they are blank and nothing else is changed, and the
    tokens give the line, the lines covered and the size of each comment and of the body of each
    string, counted in that text.

    The stretches are those of the one scan (`mask_is_report`). Line numbers come from a lookup in
    the index of a text that is partly blank already, and are the counts all the same
    (`LineIndex.lineOf_eq`), since no line feed moves.
-/

namespace SourceCensus

/-! ## Stretches of a text -/

namespace Text

/-- The characters from one offset up to another. -/
def slice (t : Text) (start stop : Nat) : Text := (t.drop start).take (stop - start)

theorem slice_append (before w after : Text) :
    slice (before ++ (w ++ after)) before.length (before.length + w.length) = w := by
  rw [slice, List.drop_left, Nat.add_sub_cancel_left, List.take_left]

theorem drop_eq_slice_append {t : Text} {start stop : Nat} (h : start ≤ stop) :
    t.drop start = t.slice start stop ++ t.drop stop := by
  obtain ⟨n, rfl⟩ := Nat.exists_eq_add_of_le h
  rw [slice, Nat.add_sub_cancel_left, ← List.drop_drop, List.take_append_drop]

theorem mem_slice_of_getElem? {t : Text} {start stop i : Nat} {c : Char} (hfrom : start ≤ i)
    (hto : i < stop) (hc : t[i]? = some c) : c ∈ t.slice start stop := by
  obtain ⟨n, rfl⟩ := Nat.exists_eq_add_of_le hfrom
  apply List.mem_of_getElem? (i := n)
  rw [slice, List.getElem?_take_of_lt (by omega), List.getElem?_drop, hc]

/-- The line feeds before a stretch and those in it are line feeds of the text. -/
theorem feeds_take_add_feeds_slice_le (t : Text) (start stop : Nat) :
    feeds (t.take start) + feeds (t.slice start stop) ≤ feeds t := by
  have hsplit : t = t.take start ++ (t.slice start stop ++ (t.drop start).drop (stop - start)) := by
    rw [slice, List.take_append_drop, List.take_append_drop]
  have hfeeds := congrArg feeds hsplit
  rw [feeds_append, feeds_append] at hfeeds
  omega

end Text

open Text

namespace Lexeme

variable {t : Text} {p : Placed}

/-- Offset just after the body. -/
def Placed.bodyStop (p : Placed) : Nat := p.bodyStart + p.lexeme.body.length

/-- The three parts of a lexeme stand one after the other in the text. -/
theorem slices_of_mem_all (hp : p ∈ all t) :
    t.slice p.start p.bodyStart = p.lexeme.opener ∧
      t.slice p.bodyStart p.bodyStop = p.lexeme.body ∧
      t.slice p.bodyStop p.stop = p.lexeme.closer ∧ t.slice p.start p.stop = p.lexeme.text := by
  -- the text is what comes before, the three parts of the lexeme, and what comes after
  obtain ⟨before, after, rfl, hstart, -⟩ := exists_append_of_mem_scan hp
  rw [Nat.zero_add] at hstart
  have hbody : p.bodyStart = (before ++ p.lexeme.opener).length := by
    rw [Placed.bodyStart, hstart, List.length_append]
  have hcloser : p.bodyStop = (before ++ p.lexeme.opener ++ p.lexeme.body).length := by
    rw [Placed.bodyStop, hbody, ← List.length_append]
  have hstop : p.stop = p.bodyStop + p.lexeme.closer.length := by
    rw [Placed.stop, Placed.bodyStop, Placed.bodyStart, size]
    omega
  refine ⟨?_, ?_, ?_, ?_⟩
  · have h := slice_append before p.lexeme.opener (p.lexeme.body ++ (p.lexeme.closer ++ after))
    rw [← hstart, ← Placed.bodyStart] at h
    simpa only [text, List.append_assoc] using h
  · have h := slice_append (before ++ p.lexeme.opener) p.lexeme.body (p.lexeme.closer ++ after)
    rw [← hbody] at h
    simpa only [text, Placed.bodyStop, List.append_assoc] using h
  · have h := slice_append (before ++ p.lexeme.opener ++ p.lexeme.body) p.lexeme.closer after
    rw [← hcloser, ← hstop] at h
    simpa only [text, List.append_assoc] using h
  · have h := slice_append before p.lexeme.text after
    rwa [← hstart, length_text] at h

/-- The lexemes of one kind. -/
def ofKind (kind : LexemeKind) (t : Text) : List Placed :=
  (all t).filter fun p => p.lexeme.kind = kind

theorem mem_ofKind {kind : LexemeKind} : p ∈ ofKind kind t ↔ p ∈ all t ∧ p.lexeme.kind = kind := by
  rw [ofKind, List.mem_filter, decide_eq_true_eq]

theorem pairwise_ofKind (kind : LexemeKind) (t : Text) :
    (ofKind kind t).Pairwise fun p q => p.stop ≤ q.start :=
  (pairwise_scan 0 t).filter _

theorem inside_of_mem_all (hp : p ∈ all t) : p.start < p.stop ∧ p.stop ≤ t.length := by
  have hpos := size_pos_of_mem_scan hp
  have hstop := stop_le_of_mem_scan hp
  rw [Placed.stop] at hstop ⊢
  omega

/-- Lexemes of two kinds are two lexemes, so they lie apart. -/
theorem apart_of_kind_ne {q : Placed} (hp : p ∈ all t) (hq : q ∈ all t)
    (hkind : p.lexeme.kind ≠ q.lexeme.kind) : p.stop ≤ q.start ∨ q.stop ≤ p.start := by
  have hapart : (all t).Pairwise fun p q => p.stop ≤ q.start ∨ q.stop ≤ p.start :=
    (pairwise_scan 0 t).imp .inl
  have hsymm : Std.Symm fun p q : Placed => p.stop ≤ q.start ∨ q.stop ≤ p.start :=
    ⟨fun _ _ h => h.symm⟩
  refine hapart.forall hp hq ?_
  rintro rfl
  exact hkind rfl

/-- A comment begins with one of the two openers. -/
theorem commentOpener_of_mem_all (hp : p ∈ all t) (hkind : p.lexeme.kind = .comment) :
    t.slice p.start p.bodyStart ∈ commentOpeners := by
  rw [(slices_of_mem_all hp).1]
  obtain ⟨before, after, -, -, hread⟩ := exists_append_of_mem_scan hp
  obtain ⟨-, hopener, -⟩ := readComment?_eq_some (readComment?_of_kind hread hkind)
  rcases hopener with ho | ho <;> rw [ho] <;> decide

/-- A string begins with one of the five openers. -/
theorem stringOpener_of_mem_all (hp : p ∈ all t) (hkind : p.lexeme.kind = .stringLiteral) :
    t.slice p.start p.bodyStart ∈ basicOpeners ++ verbatimOpeners := by
  rw [(slices_of_mem_all hp).1]
  obtain ⟨before, after, -, -, hread⟩ := exists_append_of_mem_scan hp
  exact (stringAt_of_readString? (readString?_of_kind hread hkind)).opener_mem

/-- A quote closes a string, unless it ends with the text. -/
theorem stringCloser_of_mem_all (hp : p ∈ all t) (hkind : p.lexeme.kind = .stringLiteral) :
    t.slice p.bodyStop p.stop = [quote] ∧ p.stop = p.bodyStop + 1 ∨
      p.bodyStop = p.stop ∧ p.stop = t.length := by
  obtain ⟨-, -, hcloser, -⟩ := slices_of_mem_all hp
  have hstop : p.stop = p.bodyStop + p.lexeme.closer.length := by
    rw [Placed.stop, Placed.bodyStop, Placed.bodyStart, size]
    omega
  obtain ⟨before, after, ht, hstart, hread⟩ := exists_append_of_mem_scan hp
  have hstring := stringAt_of_readString? (readString?_of_kind hread hkind)
  rcases hstring.closed_or_open with ⟨rest, -, hl, -⟩ | ⟨hopen, hnil⟩
  · left
    have hquote : p.lexeme.closer = [quote] := by rw [hl]
    rw [hcloser, hstop, hquote]
    exact ⟨rfl, rfl⟩
  · right
    obtain rfl : after = [] := by simpa using hopen
    have hend : p.stop = t.length := by
      rw [Placed.stop, hstart, ht, List.append_nil, List.length_append, length_text, Nat.zero_add]
    rw [hnil] at hstop
    exact ⟨hstop.symm, hend⟩

end Lexeme

namespace Masked

open Lexeme

/-! ## Reports -/

/-- What is to be said of a comment: its line, the lines it covers, and its size. -/
def commentReport (t : Text) (p : Placed) : Token :=
  { line := (feeds (t.take p.start) + 1 : Nat), kind := .comment
    span := (feeds (t.slice p.start p.stop) + 1 : Nat), length := some (p.stop - p.start : Nat) }

/-- What is to be said of a string literal: the same of its body. -/
def stringReport (t : Text) (p : Placed) : Token :=
  { line := (feeds (t.take p.bodyStart) + 1 : Nat), kind := .stringLiteral
    span := (feeds (t.slice p.bodyStart p.bodyStop) + 1 : Nat)
    length := some (p.bodyStop - p.bodyStart : Nat) }

/-- **A masked text is a report** on the comments and string literals of a text. -/
structure IsReport (t : Text) (comments strings : List Placed) (masked : Masked) : Prop where
  /-- No stretch is empty, and none reaches beyond the text. -/
  inside : ∀ p ∈ comments ++ strings, p.start < p.stop ∧ p.stop ≤ t.length
  /-- The comments come in their order. -/
  ascendingComments : comments.Pairwise fun p q => p.stop ≤ q.start
  /-- The strings come in their order. -/
  ascendingStrings : strings.Pairwise fun p q => p.stop ≤ q.start
  /-- No comment overlaps a string. -/
  apart : ∀ p ∈ comments, ∀ q ∈ strings, p.stop ≤ q.start ∨ q.stop ≤ p.start
  /-- A comment has one of the two openers. -/
  commentOpener : ∀ p ∈ comments, t.slice p.start p.bodyStart ∈ commentOpeners
  /-- A string has one of the five openers. -/
  stringOpener : ∀ p ∈ strings,
    t.slice p.start p.bodyStart ∈ basicOpeners ++ verbatimOpeners
  /-- A quote closes a string, or it ends with the text. -/
  stringCloser : ∀ p ∈ strings, p.bodyStart ≤ p.bodyStop ∧
    (t.slice p.bodyStop p.stop = [quote] ∧ p.stop = p.bodyStop + 1 ∨
      p.bodyStop = p.stop ∧ p.stop = t.length)
  /-- Masking keeps the length. -/
  length_eq : masked.text.length = t.length
  /-- Every line feed stays. -/
  feeds_stay : ∀ i : Nat, t[i]? = some '\n' → masked.text[i]? = some '\n'
  /-- What lies outside the stretches stays. -/
  outside_stays : ∀ i : Nat, (∀ p ∈ comments ++ strings, ¬ p.Covers i) → masked.text[i]? = t[i]?
  /-- All else is blank. -/
  rest_blank : ∀ i : Nat, i < t.length → t[i]? ≠ some '\n' →
    (∃ p ∈ comments ++ strings, p.Covers i) →
    masked.text[i]? = some ' '
  /-- The tokens report the comments and then the strings. -/
  tokens_eq : masked.tokens = comments.map (commentReport t) ++ strings.map (stringReport t)
  /-- What a token covers ends on a line of the text. -/
  lines_le : ∀ tok ∈ masked.tokens, tok.line + tok.span - 1 ≤ t.countLines

variable {t : Text}

/-- What masking says of a comment is what is to be said of it. -/
theorem commentToken_eq {p : Placed} (hp : p ∈ all t) :
    commentToken (LineIndex.ofText t) p = commentReport t p := by
  obtain ⟨-, -, -, htext⟩ := slices_of_mem_all hp
  have hsize : p.lexeme.size = p.stop - p.start := by
    rw [Placed.stop]
    omega
  rw [commentToken, commentReport, LineIndex.lineOf_eq, htext, hsize]
  rfl

/-- What masking says of a string is what is to be said of its body. -/
theorem stringToken_eq {p : Placed} (hp : p ∈ all t) :
    stringToken (LineIndex.ofText t) p = stringReport t p := by
  obtain ⟨-, hbody, -, -⟩ := slices_of_mem_all hp
  have hsize : p.lexeme.body.length = p.bodyStop - p.bodyStart := by
    rw [Placed.bodyStop]
    omega
  rw [stringToken, stringReport, LineIndex.lineOf_eq, hbody, hsize]
  rfl

theorem tokens_ofText_eq_reports (t : Text) :
    (ofText t).tokens =
      (ofKind .comment t.normalizeNewlines).map (commentReport t.normalizeNewlines) ++
        (ofKind .stringLiteral t.normalizeNewlines).map (stringReport t.normalizeNewlines) := by
  have hcomments := List.map_congr_left fun p (hp : p ∈ ofKind .comment t.normalizeNewlines) =>
    commentToken_eq (mem_ofKind.1 hp).1
  have hstrings :=
    List.map_congr_left fun p (hp : p ∈ ofKind .stringLiteral t.normalizeNewlines) =>
      stringToken_eq (mem_ofKind.1 hp).1
  rw [← hcomments, ← hstrings, tokens_ofText, ofKind, ofKind]

theorem mem_removed_iff {p : Placed} :
    p ∈ ofKind .comment t ++ ofKind .stringLiteral t ↔
      p ∈ all t ∧ p.lexeme.kind ≠ .charLiteral := by
  rw [List.mem_append, mem_ofKind, mem_ofKind, ← and_or_left]
  cases p.lexeme.kind <;> simp

/-- **The masked text, place by place.** -/
theorem getElem?_ofText (t : Text) (i : Nat) :
    (ofText t).text[i]? =
      if ∃ p ∈ ofKind .comment t.normalizeNewlines ++ ofKind .stringLiteral t.normalizeNewlines,
          p.Covers i
        then t.normalizeNewlines[i]?.map blankChar else t.normalizeNewlines[i]? := by
  have hcovered : (∃ p ∈ all t.normalizeNewlines,
      decide (p.lexeme.kind ≠ .charLiteral) = true ∧ p.Covers i) ↔
      ∃ p ∈ ofKind .comment t.normalizeNewlines ++ ofKind .stringLiteral t.normalizeNewlines,
        p.Covers i := by
    simp only [mem_removed_iff, decide_eq_true_eq, and_assoc]
  rw [text_ofText, getElem?_conceal]
  simp only [hcovered]

/-- What covers some lines of a text ends on one of them. -/
theorem line_add_span_le {p : Placed} (hp : p ∈ all t) (start stop : Nat) :
    ((feeds (t.take start) + 1 : Nat) : Int) + ((feeds (t.slice start stop) + 1 : Nat) : Int) - 1 ≤
      t.countLines := by
  have hne : t ≠ [] := by
    have hinside := inside_of_mem_all hp
    rw [← List.length_pos_iff]
    omega
  have hfeeds := feeds_take_add_feeds_slice_le t start stop
  rw [countLines_of_ne_nil hne]
  omega

/-- **Masking changes the comments and the strings, and reports them truthfully.** The stretches
    are those that the one scan of the text with its line endings normalized finds. -/
theorem mask_is_report (t : Text) :
    IsReport t.normalizeNewlines (ofKind .comment t.normalizeNewlines)
      (ofKind .stringLiteral t.normalizeNewlines) (ofText t) := by
  have htokens := tokens_ofText_eq_reports t
  have htext := getElem?_ofText t
  have hlength := (veiled_ofText t).length_eq
  -- from here on nothing depends on how the line endings were
  generalize t.normalizeNewlines = n at htokens htext hlength ⊢
  constructor
  case inside => exact fun p hp => inside_of_mem_all (mem_removed_iff.1 hp).1
  case ascendingComments => exact pairwise_ofKind .comment n
  case ascendingStrings => exact pairwise_ofKind .stringLiteral n
  case apart =>
    intro p hp q hq
    obtain ⟨hp, hcomment⟩ := mem_ofKind.1 hp
    obtain ⟨hq, hstring⟩ := mem_ofKind.1 hq
    -- lexemes of different kinds are not the same, so they do not overlap
    refine apart_of_kind_ne hp hq ?_
    rw [hcomment, hstring]
    decide
  case commentOpener =>
    intro p hp
    obtain ⟨hp, hkind⟩ := mem_ofKind.1 hp
    exact commentOpener_of_mem_all hp hkind
  case stringOpener =>
    intro p hp
    obtain ⟨hp, hkind⟩ := mem_ofKind.1 hp
    exact stringOpener_of_mem_all hp hkind
  case stringCloser =>
    intro p hp
    obtain ⟨hp, hkind⟩ := mem_ofKind.1 hp
    exact ⟨Nat.le_add_right _ _, stringCloser_of_mem_all hp hkind⟩
  case length_eq => exact hlength.symm
  case feeds_stay =>
    intro i hfeed
    rw [htext, hfeed]
    exact ite_self _
  case outside_stays =>
    intro i hout
    rw [htext, if_neg]
    rintro ⟨p, hp, hcovers⟩
    exact hout p hp hcovers
  case rest_blank =>
    intro i hi hfeed hcovers
    -- a character that is no line feed has become a space
    have hchar : n[i]? = some n[i] := List.getElem?_eq_getElem hi
    rw [hchar] at hfeed
    rw [htext, if_pos hcovers, hchar, Option.map_some, blankChar, if_neg]
    exact fun heq => hfeed (congrArg some heq)
  case tokens_eq => exact htokens
  case lines_le =>
    intro tok htok
    rw [htokens] at htok
    rcases List.mem_append.1 htok with htok | htok
    · obtain ⟨p, hp, rfl⟩ := List.mem_map.1 htok
      exact line_add_span_le (mem_ofKind.1 hp).1 _ _
    · obtain ⟨p, hp, rfl⟩ := List.mem_map.1 htok
      exact line_add_span_le (mem_ofKind.1 hp).1 _ _

end Masked

end SourceCensus
