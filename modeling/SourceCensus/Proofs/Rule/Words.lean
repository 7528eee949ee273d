import SourceCensus.Proofs.Number.Digits
import SourceCensus.Proofs.Rule.Runs
import SourceCensus.Rule.Word

/-! # Whole words

    The words of a text are its runs of word characters (`words_eq_runs`).

    Main result: `mem_words_iff`. The words of a text, with their offsets, are the stretches of
    word characters that no word character stands directly before or after.
-/

namespace SourceCensus.Rule

open Text

variable {t w : Text} {c : Char} {o : Nat}

/-! ## Words and their places -/

/-- A stretch of word characters that no word character stands directly before or after. -/
structure IsWordAt (t : Text) (o : Nat) (w : Text) : Prop where
  splits : ∃ u v, t = u ++ (w ++ v) ∧ u.length = o ∧ NoneBehind isWord u ∧ NoneAhead isWord v
  ne_nil : w ≠ []
  all_word : ∀ c ∈ w, isWord c = true

theorem isWordAt_iff : IsWordAt t o w ↔ IsRunAt isWord t o w :=
  ⟨fun h => ⟨h.splits, h.ne_nil, h.all_word⟩, fun h => ⟨h.splits, h.ne_nil, h.all_kind⟩⟩

theorem wordsFrom_eq (n : Nat) (t : Text) : wordsFrom n t = runsFrom isWord n t := by
  fun_induction wordsFrom n t with
  | case1 n => rw [runsFrom]
  | case2 n c rest hc tail ih => rw [runsFrom, if_pos hc, ih]
  | case3 n c rest hc ih => rw [runsFrom, if_neg hc, ih]

theorem words_eq_runs (t : Text) : words t = runs isWord t := wordsFrom_eq 0 t

/-- **The words of a text** are its stretches of word characters that are as long as can be. -/
theorem mem_words_iff : (o, w) ∈ words t ↔ IsWordAt t o w := by
  rw [words_eq_runs, mem_runs_iff, isWordAt_iff]

/-! ## Blanks and words -/

/-- The code points of ASCII letters and digits and the underscore. -/
def asciiWordRanges : List (Nat × Nat) := [(0x30, 0x39), (0x41, 0x5A), (0x5F, 0x5F), (0x61, 0x7A)]

theorem isAsciiWord_eq (c : Char) : isAsciiWord c = inRanges asciiWordRanges c.toNat := by
  have hscore : c = '_' ↔ c.toNat = 0x5F := (Char.toNat_inj (d := '_')).symm
  rw [Bool.eq_iff_iff]
  simp [isAsciiWord, asciiWordRanges, inRanges, hscore, Char.le_def, UInt32.le_iff_toNat_le]
  omega

theorem isWord_of_isAsciiWord (h : isAsciiWord c = true) : isWord c = true := by
  rw [isWord]
  split
  · exact h
  · rename_i hlarge
    rw [isAsciiWord_eq] at h
    obtain ⟨r, hr, -, hle⟩ := exists_range_of_inRanges h
    have hsmall : ∀ r ∈ asciiWordRanges, r.2 < 0x80 := by decide
    exact absurd (Nat.lt_of_le_of_lt hle (hsmall r hr)) hlarge

/-- White space is no part of a word. -/
theorem not_isWord_of_isBlank (h : isBlank c = true) : isWord c = false := by
  unfold isWord
  split
  · rw [isAsciiWord_eq]
    exact Apart.not_inRanges (by decide) h
  · exact Apart.not_inRanges (by decide +kernel) h

end SourceCensus.Rule
