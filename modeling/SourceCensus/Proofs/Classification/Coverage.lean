import SourceCensus.Classification
import SourceCensus.Proofs.Mask.Stages
import SourceCensus.Proofs.Token

/-! # Every line is covered

    The tokens of a text come in four groups: what masking removed, what the rules found in the
    masked text, the empty lines, and the lines with nothing else. Their kinds tell the groups
    apart (`kind_of_mem_removed` and the lemmas after it).

    Every token is on a line of the text (`line_of_mem_tokenize`). The three texts of which lines
    are counted on the way, the normalized one, the one without comments and the masked one, have
    the same lines, since masking keeps the layout.

    The last group is made from what the first three leave over, so together they are on every
    line (`tokenize_covers_lines`).
-/

namespace SourceCensus

open Text

variable {t : Text} {tok : Token} {kind : TokenKind}

/-! ## Tokens of one kind -/

/-- The numbers of the lines that tokens of one kind are on. -/
def linesOf (kind : TokenKind) (tokens : List Token) : List Int :=
  occupiedLines (tokens.filter fun tok => tok.kind = kind)

theorem linesOf_eq (kind : TokenKind) (tokens : List Token) :
    linesOf kind tokens = occupiedLines (tokensOf kind tokens) := rfl

theorem mem_occupiedLines {n : Int} {tokens : List Token} :
    n ∈ occupiedLines tokens ↔ ∃ tok ∈ tokens, tok.line = n := List.mem_map

theorem mem_linesOf {n : Int} {tokens : List Token} :
    n ∈ linesOf kind tokens ↔ ∃ tok ∈ tokens, tok.kind = kind ∧ tok.line = n := by
  unfold linesOf
  rw [mem_occupiedLines]
  simp only [List.mem_filter, decide_eq_true_eq, and_assoc]

theorem occupiedLines_append (tokens others : List Token) :
    occupiedLines (tokens ++ others) = occupiedLines tokens ++ occupiedLines others :=
  List.map_append

theorem linesOf_append (tokens others : List Token) :
    linesOf kind (tokens ++ others) = linesOf kind tokens ++ linesOf kind others := by
  rw [linesOf_eq, tokensOf_append, occupiedLines_append]
  rfl

theorem linesOf_of_forall_eq {tokens : List Token} (h : ∀ tok ∈ tokens, tok.kind = kind) :
    linesOf kind tokens = occupiedLines tokens := by
  rw [linesOf_eq, tokensOf_of_forall_eq h]

theorem linesOf_of_forall_ne {tokens : List Token} (h : ∀ tok ∈ tokens, tok.kind ≠ kind) :
    linesOf kind tokens = [] := by
  rw [linesOf_eq, tokensOf_of_forall_ne h]
  rfl

/-! ## Removed lexemes -/

namespace Masked

/-- A token of masking describes one of the lexemes of its kind. -/
theorem mem_tokens_ofLexemes {kind : LexemeKind} {describe : LineIndex → Lexeme.Placed → Token}
    {lexemes : List Lexeme.Placed} (h : tok ∈ (ofLexemes kind describe lexemes t).tokens) :
    ∃ p ∈ lexemes, tok = describe (LineIndex.ofText t) p := by
  obtain ⟨p, hp, rfl⟩ := List.mem_map.1 h
  exact ⟨p, (List.mem_filter.1 hp).1, rfl⟩

end Masked

/-- An offset of a text that has characters is on one of its lines. -/
theorem lineOf_between (ht : t ≠ []) (i : Int) :
    1 ≤ ((LineIndex.ofText t).lineOf i : Int) ∧
      ((LineIndex.ofText t).lineOf i : Int) ≤ t.countLines := by
  have h := LineIndex.lineOf_ofText t i
  rw [countLines_of_ne_nil ht]
  omega

/-- A text in which lexemes are found has characters. -/
theorem ne_nil_of_mem_scan {read : Text → Option Lexeme} {p : Lexeme.Placed}
    (h : p ∈ Lexeme.scanFrom read 0 t) : t ≠ [] := by
  rintro rfl
  rw [Lexeme.scanFrom] at h
  cases h

theorem line_of_mem_comments (h : tok ∈ (Masked.comments t).tokens) :
    1 ≤ tok.line ∧ tok.line ≤ t.countLines := by
  obtain ⟨p, hp, rfl⟩ := Masked.mem_tokens_ofLexemes h
  exact lineOf_between (ne_nil_of_mem_scan hp) _

theorem line_of_mem_strings (h : tok ∈ (Masked.strings t).tokens) :
    1 ≤ tok.line ∧ tok.line ≤ t.countLines := by
  obtain ⟨p, hp, rfl⟩ := Masked.mem_tokens_ofLexemes h
  exact lineOf_between (ne_nil_of_mem_scan hp) _

theorem line_of_mem_removed (h : tok ∈ (Masked.ofText t).tokens) :
    1 ≤ tok.line ∧ tok.line ≤ t.normalizeNewlines.countLines := by
  rcases List.mem_append.1 h with h | h
  · exact line_of_mem_comments h
  · -- the strings are looked for in the text without comments, which has the same lines
    have hveil : Veiled t.normalizeNewlines (Masked.comments t.normalizeNewlines).text := by
      rw [Masked.text_comments]
      exact Lexeme.veiled_conceal _ _
    rw [← hveil.quieted.countLines_eq]
    exact line_of_mem_strings h

theorem kind_of_mem_removed (h : tok ∈ (Masked.ofText t).tokens) :
    tok.kind = .comment ∨ tok.kind = .stringLiteral := by
  rcases List.mem_append.1 h with h | h
  · obtain ⟨p, -, rfl⟩ := Masked.mem_tokens_ofLexemes h
    exact .inl rfl
  · obtain ⟨p, -, rfl⟩ := Masked.mem_tokens_ofLexemes h
    exact .inr rfl

/-! ## Occurrences of the rules -/

/-- What the rules find in a masked text. -/
def ruleTokens (t : Text) : List Token :=
  Rule.all.flatMap fun rule => rule.tokens (LineIndex.ofText t) t

theorem mem_ruleTokens (h : tok ∈ ruleTokens t) : ∃ rule ∈ Rule.all,
    ∃ offset ∈ rule.recogniser.occurrences t,
      tok = { line := (LineIndex.ofText t).lineOf (offset : Nat), kind := rule.kind } := by
  obtain ⟨rule, hrule, h⟩ := List.mem_flatMap.1 h
  obtain ⟨offset, hoffset, rfl⟩ := List.mem_map.1 h
  exact ⟨rule, hrule, offset, hoffset, rfl⟩

theorem line_of_mem_ruleTokens (h : tok ∈ ruleTokens t) :
    1 ≤ tok.line ∧ tok.line ≤ t.countLines := by
  obtain ⟨rule, -, offset, hoffset, rfl⟩ := mem_ruleTokens h
  have ht : t ≠ [] := by
    rintro rfl
    rw [Recogniser.occurrences, Recogniser.occurrencesFrom] at hoffset
    cases hoffset
  exact lineOf_between ht _

/-- No rule yields a token of the other three groups. -/
theorem kind_of_mem_ruleTokens (h : tok ∈ ruleTokens t) :
    tok.kind ∉ [TokenKind.comment, .stringLiteral, .emptyLine, .other] := by
  -- the kinds of the fourteen rules are told once and for all
  have hkinds : ∀ rule ∈ Rule.all,
      rule.kind ∉ [TokenKind.comment, .stringLiteral, .emptyLine, .other] := by
    decide
  obtain ⟨rule, hrule, offset, -, rfl⟩ := mem_ruleTokens h
  exact hkinds rule hrule

/-! ## Empty lines and other lines -/

/-- Tokens made for some of several ascending numbers are on ascending lines. -/
theorem pairwise_lines_filterMap {α : Type} {f : α → Option Token} {number : α → Int} {xs : List α}
    (hxs : xs.Pairwise fun x y => number x < number y)
    (hf : ∀ x tok, f x = some tok → tok.line = number x) :
    (occupiedLines (xs.filterMap f)).Pairwise (· < ·) := by
  unfold occupiedLines
  rw [List.pairwise_map, List.pairwise_filterMap]
  refine hxs.imp ?_
  intro x y hlt a ha b hb
  rw [hf x a ha, hf y b hb]
  exact hlt

/-- **Which lines are empty:** those without word characters on which nothing was removed. -/
theorem mem_emptyLines {removed : List Token} : tok ∈ emptyLines t removed ↔
    t ≠ [] ∧ ∃ (i : Nat) (line : Text), t.lines[i]? = some line ∧ line.any isWord = false ∧
      (i : Int) + 1 ∉ occupiedLines removed ∧
      tok = { line := (i : Int) + 1, kind := .emptyLine } := by
  unfold emptyLines
  by_cases ht : t.isEmpty
  · rw [if_pos ht]
    simp [List.isEmpty_iff.1 ht]
  · rw [if_neg ht]
    have hne : t ≠ [] := fun hnil => ht (List.isEmpty_iff.2 hnil)
    simp only [List.mem_filterMap, Prod.exists, List.mk_mem_zipIdx_iff_le_and_getElem?_sub,
      Option.ite_none_left_eq_some, Bool.or_eq_true, List.contains_iff_mem, not_or,
      Bool.not_eq_true, Option.some.injEq]
    constructor
    · -- lines are numbered from one and indexed from zero
      rintro ⟨line, number, ⟨hone, hline⟩, ⟨hfree, hword⟩, rfl⟩
      have hnumber : (number : Int) = ((number - 1 : Nat) : Int) + 1 := by omega
      rw [hnumber] at hfree ⊢
      exact ⟨hne, number - 1, line, hline, hword, hfree, rfl⟩
    · rintro ⟨-, i, line, hline, hword, hfree, rfl⟩
      exact ⟨line, i + 1, ⟨by omega, hline⟩, ⟨by exact_mod_cast hfree, hword⟩, by push_cast; rfl⟩

theorem kind_of_mem_emptyLines {removed : List Token} (h : tok ∈ emptyLines t removed) :
    tok.kind = .emptyLine := by
  obtain ⟨-, i, line, -, -, -, rfl⟩ := mem_emptyLines.1 h
  rfl

/-- The empty lines come in ascending order, so no line is reported twice. -/
theorem pairwise_lines_emptyLines (t : Text) (removed : List Token) :
    (occupiedLines (emptyLines t removed)).Pairwise (· < ·) := by
  unfold emptyLines
  by_cases ht : t.isEmpty
  · rw [if_pos ht]
    exact .nil
  · rw [if_neg ht]
    have hnumbers : (t.lines.zipIdx 1).Pairwise fun x y => (x.2 : Int) < y.2 := by
      have h := List.pairwise_lt_range' (s := 1) (n := t.lines.length)
      rw [← List.zipIdx_map_snd 1 t.lines, List.pairwise_map] at h
      exact h.imp Int.ofNat_lt.2
    apply pairwise_lines_filterMap hnumbers
    intro x tok h
    simp only [Option.ite_none_left_eq_some, Option.some.injEq] at h
    rw [← h.2]

/-- **Which lines are other lines:** those that nothing else is on. -/
theorem mem_otherLines {lineCount : Int} {tokens : List Token} :
    tok ∈ otherLines lineCount tokens ↔ ∃ n : Int, 1 ≤ n ∧ n ≤ lineCount ∧
      n ∉ occupiedLines tokens ∧ tok = { line := n, kind := .other } := by
  unfold otherLines
  simp only [List.mem_filterMap, List.mem_range, Option.ite_none_left_eq_some,
    List.contains_iff_mem, Option.some.injEq]
  constructor
  · rintro ⟨i, hi, hfree, rfl⟩
    exact ⟨(i : Int) + 1, by omega, by omega, hfree, rfl⟩
  · rintro ⟨n, hone, hle, hfree, rfl⟩
    have hn : ((n - 1).toNat : Int) + 1 = n := by omega
    exact ⟨(n - 1).toNat, by omega, by rwa [hn], by rw [hn]⟩

theorem kind_of_mem_otherLines {lineCount : Int} {tokens : List Token}
    (h : tok ∈ otherLines lineCount tokens) : tok.kind = .other := by
  obtain ⟨n, -, -, -, rfl⟩ := mem_otherLines.1 h
  rfl

theorem pairwise_lines_otherLines (lineCount : Int) (tokens : List Token) :
    (occupiedLines (otherLines lineCount tokens)).Pairwise (· < ·) := by
  unfold otherLines
  have hnumbers : (List.range lineCount.toNat).Pairwise
      fun (i j : Nat) => (i : Int) + 1 < (j : Int) + 1 := by
    refine List.pairwise_lt_range.imp ?_
    intro i j hlt
    omega
  apply pairwise_lines_filterMap hnumbers
  intro i tok h
  simp only [Option.ite_none_left_eq_some, Option.some.injEq] at h
  rw [← h.2]

/-! ## All tokens -/

/-- What is on the lines of a text before the other lines are filled in: what the rules found
    and the empty lines. -/
def foundTokens (t : Text) : List Token :=
  ruleTokens (Masked.ofText t).text ++ emptyLines (Masked.ofText t).text (Masked.ofText t).tokens

/-- The four groups of tokens. -/
theorem tokenize_eq (t : Text) : tokenize t =
    (Masked.ofText t).tokens ++ (foundTokens t ++
      otherLines t.normalizeNewlines.countLines (foundTokens t ++ (Masked.ofText t).tokens)) := rfl

/-- A token is in one of the first three groups or fills a line in. -/
theorem mem_tokenize : tok ∈ tokenize t ↔
    tok ∈ foundTokens t ++ (Masked.ofText t).tokens ∨
      tok ∈ otherLines t.normalizeNewlines.countLines
        (foundTokens t ++ (Masked.ofText t).tokens) := by
  rw [tokenize_eq]
  simp only [List.mem_append]
  tauto

/-- A line of the masked text is a line of the text. -/
theorem line_of_mem_emptyLines
    (h : tok ∈ emptyLines (Masked.ofText t).text (Masked.ofText t).tokens) :
    1 ≤ tok.line ∧ tok.line ≤ t.normalizeNewlines.countLines := by
  obtain ⟨hne, i, line, hline, -, -, rfl⟩ := mem_emptyLines.1 h
  have hlt := (List.getElem?_eq_some_iff.1 hline).1
  rw [length_lines, ← countLines_of_ne_nil hne,
    (Masked.veiled_ofText t).quieted.countLines_eq] at hlt
  show 1 ≤ (i : Int) + 1 ∧ (i : Int) + 1 ≤ t.normalizeNewlines.countLines
  omega

/-- **Every token is on a line of the text.** -/
theorem line_of_mem_tokenize (h : tok ∈ tokenize t) :
    1 ≤ tok.line ∧ tok.line ≤ t.normalizeNewlines.countLines := by
  rcases mem_tokenize.1 h with h | h
  · rcases List.mem_append.1 h with h | h
    · rcases List.mem_append.1 h with h | h
      · rw [← (Masked.veiled_ofText t).quieted.countLines_eq]
        exact line_of_mem_ruleTokens h
      · exact line_of_mem_emptyLines h
    · exact line_of_mem_removed h
  · obtain ⟨n, hone, hle, -, rfl⟩ := mem_otherLines.1 h
    exact ⟨hone, hle⟩

/-- Nothing in the first three groups is an other token. -/
theorem kind_ne_other (h : tok ∈ foundTokens t ++ (Masked.ofText t).tokens) :
    tok.kind ≠ .other := by
  intro hkind
  rcases List.mem_append.1 h with h | h
  · rcases List.mem_append.1 h with h | h
    · simpa [hkind] using kind_of_mem_ruleTokens h
    · simpa [hkind] using kind_of_mem_emptyLines h
  · simpa [hkind] using kind_of_mem_removed h

/-- The comments and strings are what masking removed. -/
theorem mem_removed_of_kind (h : tok ∈ tokenize t)
    (hkind : tok.kind = .comment ∨ tok.kind = .stringLiteral) :
    tok ∈ (Masked.ofText t).tokens := by
  rcases mem_tokenize.1 h with h | h
  · rcases List.mem_append.1 h with h | h
    · rcases List.mem_append.1 h with h | h
      · have hrule := kind_of_mem_ruleTokens h
        rcases hkind with hkind | hkind <;> simp [hkind] at hrule
      · simp [kind_of_mem_emptyLines h] at hkind
    · exact h
  · simp [kind_of_mem_otherLines h] at hkind

/-- The lines on which something was removed are those of the comments and strings. -/
theorem mem_occupiedLines_removed {n : Int} : n ∈ occupiedLines (Masked.ofText t).tokens ↔
    n ∈ linesOf .comment (tokenize t) ∨ n ∈ linesOf .stringLiteral (tokenize t) := by
  constructor
  · intro h
    obtain ⟨tok, htok, rfl⟩ := mem_occupiedLines.1 h
    have hmem := mem_tokenize.2 (.inl (List.mem_append_right _ htok))
    rcases kind_of_mem_removed htok with hkind | hkind
    · exact .inl (mem_linesOf.2 ⟨tok, hmem, hkind, rfl⟩)
    · exact .inr (mem_linesOf.2 ⟨tok, hmem, hkind, rfl⟩)
  · rintro (h | h)
    · obtain ⟨tok, htok, hkind, rfl⟩ := mem_linesOf.1 h
      exact mem_occupiedLines.2 ⟨tok, mem_removed_of_kind htok (.inl hkind), rfl⟩
    · obtain ⟨tok, htok, hkind, rfl⟩ := mem_linesOf.1 h
      exact mem_occupiedLines.2 ⟨tok, mem_removed_of_kind htok (.inr hkind), rfl⟩

/-- The empty-line tokens are the third group. -/
theorem linesOf_emptyLine (t : Text) : linesOf .emptyLine (tokenize t) =
    occupiedLines (emptyLines (Masked.ofText t).text (Masked.ofText t).tokens) := by
  have hremoved : ∀ tok ∈ (Masked.ofText t).tokens, tok.kind ≠ .emptyLine := by
    intro tok h hkind
    simpa [hkind] using kind_of_mem_removed h
  have hrules : ∀ tok ∈ ruleTokens (Masked.ofText t).text, tok.kind ≠ .emptyLine := by
    intro tok h hkind
    simpa [hkind] using kind_of_mem_ruleTokens h
  have hothers : ∀ tok ∈ otherLines t.normalizeNewlines.countLines
      (foundTokens t ++ (Masked.ofText t).tokens), tok.kind ≠ .emptyLine := by
    intro tok h hkind
    simpa [hkind] using kind_of_mem_otherLines h
  rw [tokenize_eq, linesOf_append, linesOf_append, linesOf_of_forall_ne hremoved,
    linesOf_of_forall_ne hothers, foundTokens, linesOf_append, linesOf_of_forall_ne hrules,
    linesOf_of_forall_eq fun _ => kind_of_mem_emptyLines, List.nil_append, List.nil_append,
    List.append_nil]

/-- The other tokens are the last group. -/
theorem linesOf_other (t : Text) : linesOf .other (tokenize t) =
    occupiedLines (otherLines t.normalizeNewlines.countLines
      (foundTokens t ++ (Masked.ofText t).tokens)) := by
  have hfound : ∀ tok ∈ foundTokens t, tok.kind ≠ .other :=
    fun _ h => kind_ne_other (List.mem_append.2 (.inl h))
  have hremoved : ∀ tok ∈ (Masked.ofText t).tokens, tok.kind ≠ .other :=
    fun _ h => kind_ne_other (List.mem_append.2 (.inr h))
  rw [tokenize_eq, linesOf_append, linesOf_append, linesOf_of_forall_ne hremoved,
    linesOf_of_forall_ne hfound, linesOf_of_forall_eq fun _ => kind_of_mem_otherLines,
    List.nil_append, List.nil_append]

/-! ## Coverage -/

/-- **Every line is covered,** and nothing else is. -/
theorem mem_occupiedLines_tokenize {n : Int} :
    n ∈ occupiedLines (tokenize t) ↔ 1 ≤ n ∧ n ≤ t.normalizeNewlines.countLines := by
  constructor
  · intro h
    obtain ⟨tok, htok, rfl⟩ := mem_occupiedLines.1 h
    exact line_of_mem_tokenize htok
  · rintro ⟨hone, hle⟩
    by_cases hfound : n ∈ occupiedLines (foundTokens t ++ (Masked.ofText t).tokens)
    · obtain ⟨tok, htok, rfl⟩ := mem_occupiedLines.1 hfound
      exact mem_occupiedLines.2 ⟨tok, mem_tokenize.2 (.inl htok), rfl⟩
    · -- nothing else is on the line, so the last group fills it in
      have hfilled := mem_otherLines.2 ⟨n, hone, hle, hfound, rfl⟩
      exact mem_occupiedLines.2 ⟨_, mem_tokenize.2 (.inr hfilled), rfl⟩

/-- Every line of a text shows in its masked form. -/
theorem exists_masked_line {i : Nat} (hi : i < t.normalizeNewlines.countLines) :
    (Masked.ofText t).text ≠ [] ∧ ∃ line, (Masked.ofText t).text.lines[i]? = some line := by
  have hlines := (Masked.veiled_ofText t).quieted.countLines_eq
  have hne : (Masked.ofText t).text ≠ [] := by
    intro hnil
    rw [← hlines, hnil] at hi
    cases hi
  rw [← hlines, countLines_of_ne_nil hne, ← length_lines] at hi
  exact ⟨hne, _, List.getElem?_eq_getElem hi⟩

theorem mem_linesOf_emptyLine {i : Nat} {line : Text} (hne : (Masked.ofText t).text ≠ [])
    (hline : (Masked.ofText t).text.lines[i]? = some line) :
    (i : Int) + 1 ∈ linesOf .emptyLine (tokenize t) ↔
      line.any isWord = false ∧ (i : Int) + 1 ∉ linesOf .comment (tokenize t) ∧
        (i : Int) + 1 ∉ linesOf .stringLiteral (tokenize t) := by
  rw [linesOf_emptyLine, mem_occupiedLines, ← not_or, ← mem_occupiedLines_removed]
  constructor
  · rintro ⟨tok, htok, hnumber⟩
    obtain ⟨-, j, other, hother, hword, hfree, rfl⟩ := mem_emptyLines.1 htok
    have hindex : (j : Int) + 1 = (i : Int) + 1 := hnumber
    obtain rfl : j = i := by omega
    rw [hline, Option.some.injEq] at hother
    subst hother
    exact ⟨hword, hfree⟩
  · rintro ⟨hword, hfree⟩
    exact ⟨_, mem_emptyLines.2 ⟨hne, i, line, hline, hword, hfree, rfl⟩, rfl⟩

theorem mem_linesOf_other {n : Int} (hone : 1 ≤ n) (hle : n ≤ t.normalizeNewlines.countLines) :
    n ∈ linesOf .other (tokenize t) ↔ ∀ tok ∈ tokenize t, tok.line = n → tok.kind = .other := by
  rw [linesOf_other, mem_occupiedLines]
  constructor
  · rintro ⟨other, hother, rfl⟩ tok htok hline
    obtain ⟨m, -, -, hfree, rfl⟩ := mem_otherLines.1 hother
    rcases mem_tokenize.1 htok with h | h
    · exact absurd (mem_occupiedLines.2 ⟨tok, h, hline⟩) hfree
    · exact kind_of_mem_otherLines h
  · intro hall
    refine ⟨_, mem_otherLines.2 ⟨n, hone, hle, ?_, rfl⟩, rfl⟩
    intro hfound
    obtain ⟨tok, htok, hline⟩ := mem_occupiedLines.1 hfound
    exact kind_ne_other htok (hall tok (mem_tokenize.2 (.inl htok)) hline)

/-- **Every line is covered by the right tokens.** The lines of the tokens are those of the text.
    A line has an empty-line token when its masked form has no word character and neither a
    comment nor a string starts there, and an other token when nothing else is on it; neither
    comes twice on a line. -/
theorem tokenize_covers_lines (t : Text) :
    (∀ n : Int, n ∈ occupiedLines (tokenize t) ↔ 1 ≤ n ∧ n ≤ t.normalizeNewlines.countLines) ∧
    (∀ i < t.normalizeNewlines.countLines, ∃ line,
      (Masked.ofText t).text.lines[i]? = some line ∧
      ((i : Int) + 1 ∈ linesOf .emptyLine (tokenize t) ↔
        line.any isWord = false ∧ (i : Int) + 1 ∉ linesOf .comment (tokenize t) ∧
          (i : Int) + 1 ∉ linesOf .stringLiteral (tokenize t))) ∧
    (∀ n : Int, 1 ≤ n → n ≤ t.normalizeNewlines.countLines →
      (n ∈ linesOf .other (tokenize t) ↔
        ∀ tok ∈ tokenize t, tok.line = n → tok.kind = .other)) ∧
    (linesOf .emptyLine (tokenize t)).Nodup ∧ (linesOf .other (tokenize t)).Nodup := by
  refine ⟨fun n => mem_occupiedLines_tokenize, ?_, fun n => mem_linesOf_other, ?_, ?_⟩
  · intro i hi
    obtain ⟨hne, line, hline⟩ := exists_masked_line hi
    exact ⟨line, hline, mem_linesOf_emptyLine hne hline⟩
  · rw [linesOf_emptyLine]
    exact (pairwise_lines_emptyLines _ _).imp Int.ne_of_lt
  · rw [linesOf_other]
    exact (pairwise_lines_otherLines _ _).imp Int.ne_of_lt

end SourceCensus
