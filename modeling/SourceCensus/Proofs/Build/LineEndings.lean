import SourceCensus.Proofs.Text.Lines
import SourceCensus.Tree.Build

/-! # Line endings and the analysis of a file

    The analysis reads a text only with its line endings normalized, so two texts that agree then
    have the same tokens and make the same leaf (`tokenize_congr`, `ofText_congr`). Normalizing is
    one pass over the text (`normalizeNewlines_eq_unifyNewlines`), and it undoes every change from
    line feeds to another line ending (`normalizeNewlines_withEndings`). So the line endings of a
    file never matter (`line_endings_never_matter`).
-/

namespace SourceCensus

namespace Text

variable {t u ending : Text}

/-! ## One pass -/

/-- A carriage return in front of a line feed and the line feed are one line ending. -/
theorem unifyNewlines_pair (t : Text) :
    unifyNewlines ('\r' :: '\n' :: t) = '\n' :: unifyNewlines t := by
  rw [unifyNewlines]

/-- Any other character is looked at by itself. -/
theorem unifyNewlines_cons {c : Char} (h : c = '\r' → t.head? ≠ some '\n') :
    unifyNewlines (c :: t) = feedOfReturn c :: unifyNewlines t := by
  rw [unifyNewlines]
  intro rest hc ht
  exact h hc (by rw [ht, List.head?_cons])

/-- **Two replacements are one pass.** The first one makes no new pair of a carriage return and a
    line feed, and the second one looks at one character at a time. -/
theorem normalizeNewlines_eq_unifyNewlines (t : Text) : t.normalizeNewlines = t.unifyNewlines := by
  unfold normalizeNewlines
  fun_induction joinPairs t with
  | case1 => rfl
  | case2 rest ih =>
    rw [List.map_cons, ih, unifyNewlines_pair]
    rfl
  | case3 c rest hpair ih =>
    have hnext : c = '\r' → rest.head? ≠ some '\n' := by
      intro hc hhead
      obtain ⟨tail, htail⟩ := List.head?_eq_some_iff.1 hhead
      exact hpair tail hc htail
    rw [List.map_cons, ih, unifyNewlines_cons hnext]

/-- Normalizing again changes nothing. -/
theorem normalizeNewlines_idem (t : Text) :
    t.normalizeNewlines.normalizeNewlines = t.normalizeNewlines :=
  normalizeNewlines_of_not_mem (not_mem_normalizeNewlines t)

/-! ## Other line endings -/

/-- The text with another line ending in the place of every line feed. -/
def withEndings (ending t : Text) : Text := t.flatMap fun c => if c = '\n' then ending else [c]

/-- The line endings that are no line feed: the pair, and the carriage return by itself. -/
def otherEndings : List Text := [['\r', '\n'], ['\r']]

theorem withEndings_feed (ending t : Text) :
    withEndings ending ('\n' :: t) = ending ++ withEndings ending t := by
  rw [withEndings, List.flatMap_cons, if_pos rfl]
  rfl

theorem withEndings_cons {c : Char} (hc : c ≠ '\n') (ending t : Text) :
    withEndings ending (c :: t) = c :: withEndings ending t := by
  rw [withEndings, List.flatMap_cons, if_neg hc]
  rfl

/-- Where carriage returns are put, no text begins with a line feed. -/
theorem head?_withEndings (hending : ending.head? = some '\r') (t : Text) :
    (withEndings ending t).head? ≠ some '\n' := by
  cases t with
  | nil => exact nofun
  | cons c t =>
    by_cases hc : c = '\n'
    · have hne : some '\r' ≠ some '\n' := by decide
      rw [hc, withEndings_feed, List.head?_append, hending]
      exact hne
    · rw [withEndings_cons hc, List.head?_cons]
      simpa using hc

/-- One line ending is read as one line feed. -/
theorem unifyNewlines_ending (hending : ending ∈ otherEndings) (h : t.head? ≠ some '\n') :
    unifyNewlines (ending ++ t) = '\n' :: unifyNewlines t := by
  rcases List.mem_cons.1 hending with rfl | hending
  · exact unifyNewlines_pair t
  · obtain rfl := List.mem_singleton.1 hending
    exact unifyNewlines_cons fun _ => h

/-- **Normalizing brings the line feeds back,** whichever line ending was put in their place. -/
theorem normalizeNewlines_withEndings (hending : ending ∈ otherEndings) (h : '\r' ∉ t) :
    (withEndings ending t).normalizeNewlines = t := by
  have hreturns : ∀ ending ∈ otherEndings, ending.head? = some '\r' := by decide
  rw [normalizeNewlines_eq_unifyNewlines]
  induction t with
  | nil => rfl
  | cons c t ih =>
    rw [List.mem_cons, not_or] at h
    obtain ⟨hc, ht⟩ := h
    by_cases hfeed : c = '\n'
    · -- what follows the line ending begins with no line feed, so it stays apart
      have hnext := head?_withEndings (hreturns ending hending) t
      rw [hfeed, withEndings_feed, unifyNewlines_ending hending hnext, ih ht]
    · have hreturn : c ≠ '\r' := Ne.symm hc
      have hkeep : feedOfReturn c = c := if_neg hreturn
      rw [withEndings_cons hfeed, unifyNewlines_cons fun heq => absurd heq hreturn, ih ht, hkeep]

end Text

open Text

/-! ## What the analysis sees -/

variable {t u : Text}

theorem tokenize_congr (h : u.normalizeNewlines = t.normalizeNewlines) :
    tokenize u = tokenize t := by
  have hmasked : Masked.ofText u = Masked.ofText t := by
    unfold Masked.ofText
    rw [h]
  unfold tokenize
  rw [hmasked, h]

theorem ofText_congr (h : u.normalizeNewlines = t.normalizeNewlines) (path : String) :
    Tree.ofText path u = Tree.ofText path t := by
  unfold Tree.ofText
  rw [tokenize_congr h, h]

/-- Files whose texts agree but for the line endings make the same leaf, or fail alike. -/
theorem ofFile_congr {ε : Type} {read read' : String → Except ε Text} {path : String}
    (hread : read path = .ok t) (hread' : read' path = .ok u)
    (h : u.normalizeNewlines = t.normalizeNewlines) :
    Tree.ofFile read' path = Tree.ofFile read path := by
  unfold Tree.ofFile
  simp only [hread, hread', ofText_congr h]

/-- **Line endings never matter.** Normalizing is a single pass, changes nothing when done again
    and leaves no carriage return, so a text has the tokens of the normalized one. And putting
    pairs or carriage returns in the place of all line feeds of a text changes neither its tokens
    nor the leaf of a file, which holds the number of lines and the statistics. -/
theorem line_endings_never_matter (t : Text) :
    t.normalizeNewlines = t.unifyNewlines ∧
    t.normalizeNewlines.normalizeNewlines = t.normalizeNewlines ∧
    '\r' ∉ t.normalizeNewlines ∧
    tokenize t = tokenize t.normalizeNewlines ∧
    ('\r' ∉ t → ∀ ending ∈ [['\r', '\n'], ['\r']],
      tokenize (withEndings ending t) = tokenize t ∧
      ∀ (ε : Type) (read read' : String → Except ε Text) (path : String),
        read path = .ok t → read' path = .ok (withEndings ending t) →
        Tree.ofFile read' path = Tree.ofFile read path) := by
  refine ⟨normalizeNewlines_eq_unifyNewlines t, normalizeNewlines_idem t,
    not_mem_normalizeNewlines t, tokenize_congr (normalizeNewlines_idem t).symm, ?_⟩
  intro hreturn ending hending
  have hsame : (withEndings ending t).normalizeNewlines = t.normalizeNewlines := by
    rw [normalizeNewlines_withEndings hending hreturn, normalizeNewlines_of_not_mem hreturn]
  refine ⟨tokenize_congr hsame, ?_⟩
  intro ε read read' path hread hread'
  exact ofFile_congr hread hread' hsame

/-- Two empty lines, a comment and the beginning of a string that runs over two lines. -/
def feedsEverywhere : Text := ['\n', '\n', '/', '/', '\n', Lexeme.quote, '\n', 'x']

theorem line_endings_never_matter_feedsEverywhere :
    '\r' ∉ feedsEverywhere ∧ ['\r', '\n'] ∈ [['\r', '\n'], ['\r']] ∧
    tokenize (withEndings ['\r', '\n'] feedsEverywhere) = tokenize feedsEverywhere ∧
    Tree.ofFile (fun _ => (.ok (withEndings ['\r', '\n'] feedsEverywhere) : Except Unit Text)) "a" =
      Tree.ofFile (fun _ => .ok feedsEverywhere) "a" := by
  have hreturn : '\r' ∉ feedsEverywhere := by decide
  have hending : ['\r', '\n'] ∈ [['\r', '\n'], ['\r']] := by decide
  obtain ⟨htokens, hleaf⟩ :=
    (line_endings_never_matter feedsEverywhere).2.2.2.2 hreturn ['\r', '\n'] hending
  exact ⟨hreturn, hending, htokens, hleaf Unit _ _ "a" rfl rfl⟩

end SourceCensus
