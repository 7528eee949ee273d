import SourceCensus.Number.Integer
import SourceCensus.Proofs.Text.Trim

/-! # Digits that write a number

    Of the characters that count as digits only some have a place value: the decimal ones
    (`isSome_decimalValue?`). A text of digits therefore writes an integer exactly when all its
    digits are decimal (`isSome_readInteger?_of_digits`). Digits are no white space and no signs
    (`not_numberBlank_of_isDigit`), so nothing else about the text matters.
-/

namespace SourceCensus

/-! ## Ranges -/

namespace Text

variable {rs qs : List (Nat × Nat)} {n : Nat} {c : Char}

/-- What ranges contain is in one of them. -/
theorem exists_range_of_inRanges (h : inRanges rs n = true) : ∃ r ∈ rs, r.1 ≤ n ∧ n ≤ r.2 := by
  induction rs with
  | nil => cases h
  | cons r rest ih =>
    rw [inRanges] at h
    split at h
    · cases h
    · rename_i hlo
      rw [Bool.or_eq_true, decide_eq_true_eq] at h
      rcases h with hhi | hrest
      · exact ⟨r, by simp, Nat.le_of_not_lt hlo, hhi⟩
      · obtain ⟨q, hq, hbetween⟩ := ih hrest
        exact ⟨q, List.mem_cons_of_mem _ hq, hbetween⟩

/-- No range of one list meets a range of the other. -/
def Apart (rs qs : List (Nat × Nat)) : Prop := ∀ r ∈ rs, ∀ q ∈ qs, r.2 < q.1 ∨ q.2 < r.1

instance (rs qs : List (Nat × Nat)) : Decidable (Apart rs qs) :=
  inferInstanceAs (Decidable (∀ r ∈ rs, ∀ q ∈ qs, r.2 < q.1 ∨ q.2 < r.1))

theorem Apart.not_inRanges (h : Apart rs qs) (hr : inRanges rs n = true) :
    inRanges qs n = false := by
  rw [← Bool.not_eq_true]
  intro hq
  obtain ⟨r, hrmem, hr₁, hr₂⟩ := exists_range_of_inRanges hr
  obtain ⟨q, hqmem, hq₁, hq₂⟩ := exists_range_of_inRanges hq
  have := h r hrmem q hqmem
  omega

/-! ## Place values -/

/-- Exactly what ranges contain has a place value in them. -/
theorem isSome_placeValue? (rs : List (Nat × Nat)) (n : Nat) :
    (placeValue? rs n).isSome = inRanges rs n := by
  induction rs with
  | nil => rfl
  | cons r rest ih =>
    rw [placeValue?, inRanges]
    split
    · rfl
    · split
      · rename_i hhi
        simp [hhi]
      · rename_i hhi
        simp [hhi, ih]

/-- **The decimal digits are those with a place value.** -/
theorem isSome_decimalValue? (c : Char) : (decimalValue? c).isSome = isDecimal c :=
  isSome_placeValue? decimalRanges c.toNat

/-- No digit of any form is white space. -/
theorem not_blank_of_isDigit (h : isDigit c = true) : isBlank c = false := by
  unfold isDigit isDecimal at h
  rw [Bool.or_eq_true] at h
  rcases h with hdecimal | hornamental
  · exact Apart.not_inRanges (by decide) hdecimal
  · exact Apart.not_inRanges (by decide) hornamental

end Text

/-! ## Reading -/

namespace Number

open Text

variable {t : List Char} {c : Char}

theorem not_numberBlank_of_isDigit (h : isDigit c = true) : isNumberBlank c = false := by
  unfold isNumberBlank
  rw [not_blank_of_isDigit h, Bool.false_and]

/-- A digit is read on when it is decimal; a digit that is not is no underscore either. -/
theorem readDigits?_cons (value : Nat) (rest : List Char) (hc : isDigit c = true) :
    readDigits? value (c :: rest) =
      (decimalValue? c).bind fun d => readDigits? (value * 10 + d) rest := by
  have hunderscore : c ≠ '_' := by
    rintro rfl
    revert hc
    decide
  rw [readDigits?.eq_def]
  dsimp only
  rw [if_neg hunderscore]
  cases decimalValue? c <;> rfl

/-- Digits are read to the end exactly when all of them are decimal. -/
theorem isSome_readDigits? (value : Nat) (h : ∀ c ∈ t, isDigit c = true) :
    (readDigits? value t).isSome = t.all isDecimal := by
  induction t generalizing value with
  | nil => rfl
  | cons c rest ih =>
    have hrest : ∀ d ∈ rest, isDigit d = true := fun d hd => h d (List.mem_cons_of_mem _ hd)
    rw [readDigits?_cons value rest (h c (by simp)), List.all_cons, ← isSome_decimalValue?]
    cases decimalValue? c with
    | none => rfl
    | some d => exact ih _ hrest

theorem isSome_readNatural? (hne : t ≠ []) (h : ∀ c ∈ t, isDigit c = true) :
    (readNatural? t).isSome = t.all isDecimal := by
  cases t with
  | nil => exact absurd rfl hne
  | cons c rest =>
    have hrest : ∀ d ∈ rest, isDigit d = true := fun d hd => h d (List.mem_cons_of_mem _ hd)
    rw [readNatural?, List.all_cons, ← isSome_decimalValue?]
    cases decimalValue? c with
    | none => rfl
    | some d => exact isSome_readDigits? d hrest

/-- **A text of digits writes an integer exactly when all its digits are decimal.** -/
theorem isSome_readInteger?_of_digits (hne : t ≠ []) (h : ∀ c ∈ t, isDigit c = true) :
    (readInteger? t).isSome = t.all isDecimal := by
  have hclean : Clean isNumberBlank t :=
    clean_of_forall fun c hc => not_numberBlank_of_isDigit (h c hc)
  rw [readInteger?, trim_of_clean hclean, ← isSome_readNatural? hne h]
  -- a digit is no sign
  split
  · exact absurd (h '-' (by simp)) (by decide)
  · exact absurd (h '+' (by simp)) (by decide)
  · cases readNatural? t <;> rfl

end Number

end SourceCensus
