import SourceCensus.Number.Rounding

/-! # Quotients within the range of doubles

    A quotient below two to the power of 1000 has a nearest double (`quotient?_of_lt`), and so has
    an integer (`double?_of_lt`), so that a conversion of such a number never fails. The bound
    is a round number well below the largest double: a quotient below `2 ^ (k + 1)` is rounded
    in units of `2 ^ (k - 52)` or larger ones, which leaves at most `2 ^ 53` units
    (`significand_le`), and the packed bits stay below those of infinity for every `k` up to 1000.
-/

namespace SourceCensus.Number

variable {num den n k : Nat} {p : Int}

theorem twoTo_pos (n : Nat) : 0 < twoTo n := Nat.pow_pos (by decide)

theorem twoTo_add (m n : Nat) : twoTo (m + n) = twoTo m * twoTo n := Nat.pow_add 2 m n

theorem twoTo_le_twoTo {m n : Nat} (h : m ≤ n) : twoTo m ≤ twoTo n :=
  Nat.pow_le_pow_right (by decide) h

theorem twoTo_log2_le (h : n ≠ 0) : twoTo n.log2 ≤ n := Nat.log2_self_le h

theorem lt_twoTo_log2_succ (n : Nat) : n < twoTo (n.log2 + 1) := Nat.lt_log2_self

theorem log2_lt_of_lt_twoTo (h : n ≠ 0) (hn : n < twoTo k) : n.log2 < k := (Nat.log2_lt h).2 hn

/-! ## The power of two below a quotient -/

/-- A power that is not reached, with both sides brought to natural numbers. -/
theorem lt_of_not_reachesPower (h : reachesPower num den p = false) {u v : Nat} (hp : p + u ≤ v) :
    num * twoTo u < den * twoTo v := by
  unfold reachesPower at h
  by_cases hneg : p < 0
  · rw [if_pos hneg, decide_eq_false_iff_not, Nat.not_le] at h
    calc num * twoTo u
        ≤ num * twoTo ((-p).toNat + v) := Nat.mul_le_mul_left num (twoTo_le_twoTo (by omega))
      _ = num * twoTo (-p).toNat * twoTo v := by rw [twoTo_add, Nat.mul_assoc]
      _ < den * twoTo v := Nat.mul_lt_mul_of_pos_right h (twoTo_pos v)
  · rw [if_neg hneg, decide_eq_false_iff_not, Nat.not_le] at h
    calc num * twoTo u
        < den * twoTo p.toNat * twoTo u := Nat.mul_lt_mul_of_pos_right h (twoTo_pos u)
      _ = den * twoTo (p.toNat + u) := by rw [twoTo_add, Nat.mul_assoc]
      _ ≤ den * twoTo v := Nat.mul_le_mul_left den (twoTo_le_twoTo (by omega))

/-- The numbers of bits bound the quotient. -/
theorem not_reachesPower_log2 (hden : den ≠ 0) :
    reachesPower num den ((num.log2 : Int) - den.log2 + 1) = false := by
  have hnum := lt_twoTo_log2_succ num
  have hlow := twoTo_log2_le hden
  unfold reachesPower
  by_cases hneg : (num.log2 : Int) - den.log2 + 1 < 0
  · rw [if_pos hneg, decide_eq_false_iff_not, Nat.not_le]
    have hexp : num.log2 + 1 + (-((num.log2 : Int) - den.log2 + 1)).toNat = den.log2 := by omega
    calc num * twoTo (-((num.log2 : Int) - den.log2 + 1)).toNat
        < twoTo (num.log2 + 1) * twoTo (-((num.log2 : Int) - den.log2 + 1)).toNat :=
          Nat.mul_lt_mul_of_pos_right hnum (twoTo_pos _)
      _ = twoTo den.log2 := by rw [← twoTo_add, hexp]
      _ ≤ den := hlow
  · rw [if_neg hneg, decide_eq_false_iff_not, Nat.not_le]
    have hexp : den.log2 + ((num.log2 : Int) - den.log2 + 1).toNat = num.log2 + 1 := by omega
    calc num
        < twoTo (num.log2 + 1) := hnum
      _ = twoTo den.log2 * twoTo ((num.log2 : Int) - den.log2 + 1).toNat := by
          rw [← twoTo_add, hexp]
      _ ≤ den * twoTo ((num.log2 : Int) - den.log2 + 1).toNat := Nat.mul_le_mul_right _ hlow

/-- A quotient stays below the next power of two. -/
theorem not_reachesPower_succ_floorLog (hden : den ≠ 0) :
    reachesPower num den (floorLog num den + 1) = false := by
  unfold floorLog
  dsimp only
  -- the guess is one too high when it is not reached itself
  by_cases hguess : reachesPower num den ((num.log2 : Int) - den.log2) = true
  · rw [if_pos hguess]
    exact not_reachesPower_log2 hden
  · rw [if_neg hguess, Int.sub_add_cancel]
    exact Bool.eq_false_iff.2 hguess

/-- A quotient below `2 ^ k` has its power of two below `k + 1`. -/
theorem floorLog_le (hnum : num ≠ 0) (h : num < den * twoTo k) : floorLog num den ≤ k := by
  have hbits : num < twoTo (den.log2 + 1 + k) := by
    rw [twoTo_add]
    exact Nat.lt_trans h (Nat.mul_lt_mul_of_pos_right (lt_twoTo_log2_succ den) (twoTo_pos k))
  have hlog := log2_lt_of_lt_twoTo hnum hbits
  unfold floorLog
  dsimp only
  split <;> omega

/-! ## Rounding -/

theorem roundQuotient_le (n d : Nat) : roundQuotient n d ≤ n / d + 1 := by
  unfold roundQuotient
  dsimp only
  split
  · omega
  · split
    · omega
    · split <;> omega

theorem roundQuotient_le_of_lt {n d k : Nat} (h : n < d * k) : roundQuotient n d ≤ k := by
  have hround := roundQuotient_le n d
  have hdiv : n / d < k := Nat.div_lt_of_lt_mul h
  omega

/-- A quotient is at most `2 ^ 53` of the units it is rounded in. -/
theorem significand_le {e : Int} (hden : den ≠ 0) (he : floorLog num den - 52 ≤ e) :
    significand num den e ≤ twoTo 53 := by
  have hnot : reachesPower num den (floorLog num den + 1) = false :=
    not_reachesPower_succ_floorLog hden
  unfold significand
  by_cases hneg : e < 0
  · rw [if_pos hneg]
    exact roundQuotient_le_of_lt (lt_of_not_reachesPower hnot (by omega))
  · rw [if_neg hneg]
    apply roundQuotient_le_of_lt
    -- nothing is shifted on the left, and the unit and 53 bits on the right
    have hlt := lt_of_not_reachesPower hnot (u := 0) (v := e.toNat + 53) (by omega)
    rw [twoTo_add, ← Nat.mul_assoc] at hlt
    exact Nat.lt_of_le_of_lt (Nat.le_mul_of_pos_right num (twoTo_pos 0)) hlt

theorem magnitudeBits?_of_lt (h : num < den * twoTo 1000) :
    ∃ bits, magnitudeBits? num den = some bits := by
  unfold magnitudeBits?
  by_cases hnum : num = 0
  · exact ⟨0, if_pos hnum⟩
  · -- no number is below a multiple of zero
    have hden : den ≠ 0 := by
      rintro rfl
      rw [Nat.zero_mul] at h
      exact absurd h (Nat.not_lt_zero num)
    have hlog := floorLog_le hnum h
    have hunit : unitExponent num den = max (floorLog num den - 52) (-1074) := rfl
    have hsig : significand num den (unitExponent num den) ≤ twoTo 53 :=
      significand_le hden (by omega)
    have h53 : twoTo 53 = 2 * leadingBit := by decide
    have hexp : (unitExponent num den + 1074).toNat ≤ 2022 := by omega
    -- so the exponent and the significand fit below the bits of infinity
    have hpack := Nat.mul_le_mul_right leadingBit hexp
    have hbits : (unitExponent num den + 1074).toNat * leadingBit +
        significand num den (unitExponent num den) < infinityBits := by
      simp only [leadingBit, infinityBits] at *
      omega
    rw [if_neg hnum]
    exact ⟨_, if_pos hbits⟩

/-- **Division succeeds** for every quotient below two to the power of 1000. -/
theorem quotient?_of_lt {n : Int} (h : n.natAbs < den * twoTo 1000) :
    ∃ x, quotient? n den = some x := by
  obtain ⟨bits, hbits⟩ := magnitudeBits?_of_lt h
  exact ⟨_, by rw [quotient?, hbits, Option.map_some]⟩

/-- **Conversion succeeds** for every integer below two to the power of 1000. -/
theorem double?_of_lt {n : Int} (h : n.natAbs < twoTo 1000) : ∃ x, double? n = some x :=
  quotient?_of_lt (by rwa [Nat.one_mul])

end SourceCensus.Number
