import Mathlib.Data.List.Forall2
import SourceCensus.Proofs.Text.Utf8

/-! # Well-formed UTF-8

    Which bytes are UTF-8 can be said without numbers of characters: they are cut into sequences,
    and for each place of a sequence there is a range that its byte lies in (`sequences`). The
    ranges keep out surrogates, numbers past the last character, and characters written longer than
    they need to be.

    The first byte of a sequence says how many bytes it has and limits the second one
    (`isSequence_iff_limited`). From this it follows that a sequence writes a character
    (`exists_encodeChar_eq`) and that reading without a fault takes whole sequences
    (`wellFormed_of_faultless`). So bytes are well formed exactly when they write a text
    (`wellFormed_iff`), and are then read as that text without a fault
    (`decodeStrict?_eq_some_iff`).
-/

namespace SourceCensus.Text

variable {s bs : Bytes} {t : Text}

/-! ## Sequences of bytes -/

/-- The range of a byte that follows the first one, where nothing more is asked of it. -/
def tailRange : Nat × Nat := (0x80, 0xBF)

/-- The sequences that stand for one character: a range for each byte. -/
def sequences : List (List (Nat × Nat)) := [
  [(0x00, 0x7F)],
  [(0xC2, 0xDF), tailRange],
  [(0xE0, 0xE0), (0xA0, 0xBF), tailRange],
  [(0xE1, 0xEC), tailRange, tailRange],
  [(0xED, 0xED), (0x80, 0x9F), tailRange],
  [(0xEE, 0xEF), tailRange, tailRange],
  [(0xF0, 0xF0), (0x90, 0xBF), tailRange, tailRange],
  [(0xF1, 0xF3), tailRange, tailRange, tailRange],
  [(0xF4, 0xF4), (0x80, 0x8F), tailRange, tailRange]]

/-- A byte lies in a range. -/
def Within (range : Nat × Nat) (b : UInt8) : Prop := range.1 ≤ b.toNat ∧ b.toNat ≤ range.2

theorem within_tailRange_iff {b : UInt8} :
    Within tailRange b ↔ 0x80 ≤ b.toNat ∧ b.toNat ≤ 0xBF := Iff.rfl

theorem within_ofNat {n least most : Nat} (hbyte : n < 256) (hn : least ≤ n ∧ n ≤ most) :
    Within (least, most) (UInt8.ofNat n) := by
  unfold Within
  rw [UInt8.toNat_ofNat_of_lt' hbyte]
  exact hn

/-- A byte that lies in a range which is narrowed from below in one case and from above in
    another. -/
theorem within_tailRange_of_narrowed {low high : Prop} [Decidable low] [Decidable high]
    {least most : Nat} {b : UInt8} (hleast : 0x80 ≤ least) (hmost : most ≤ 0xBF)
    (h : Within (if low then least else 0x80, if high then most else 0xBF) b) :
    Within tailRange b ∧ (low → least ≤ b.toNat) ∧ (high → b.toNat ≤ most) := by
  obtain ⟨hmin, hmax⟩ := h
  dsimp only at hmin hmax
  have hbelow : 0x80 ≤ b.toNat ∧ (low → least ≤ b.toNat) := by
    by_cases hlow : low
    · rw [if_pos hlow] at hmin
      exact ⟨Nat.le_trans hleast hmin, fun _ => hmin⟩
    · rw [if_neg hlow] at hmin
      exact ⟨hmin, fun h => absurd h hlow⟩
  have habove : b.toNat ≤ 0xBF ∧ (high → b.toNat ≤ most) := by
    by_cases hhigh : high
    · rw [if_pos hhigh] at hmax
      exact ⟨Nat.le_trans hmax hmost, fun _ => hmax⟩
    · rw [if_neg hhigh] at hmax
      exact ⟨hmax, fun h => absurd h hhigh⟩
  exact ⟨within_tailRange_iff.2 ⟨hbelow.1, habove.1⟩, hbelow.2, habove.2⟩

/-- Bytes that stand for one character. -/
def IsSequence (s : Bytes) : Prop := ∃ ranges ∈ sequences, List.Forall₂ Within ranges s

/-- Bytes that stand for characters, one after the other. -/
inductive WellFormed : Bytes → Prop where
  | nil : WellFormed []
  | append {s bs : Bytes} : IsSequence s → WellFormed bs → WellFormed (s ++ bs)

/-! ## The first byte of a sequence -/

/-- Bytes of which the first one says how many there are and, for four of its values, narrows the
    range of the second one. -/
inductive Limited : Bytes → Prop where
  | one {a : UInt8} : Within (0x00, 0x7F) a → Limited [a]
  | two {a b : UInt8} : Within (0xC2, 0xDF) a → Within tailRange b → Limited [a, b]
  | three {a b c : UInt8} : Within (0xE0, 0xEF) a → Within tailRange b → Within tailRange c →
      (a.toNat = 0xE0 → 0xA0 ≤ b.toNat) → (a.toNat = 0xED → b.toNat ≤ 0x9F) → Limited [a, b, c]
  | four {a b c d : UInt8} : Within (0xF0, 0xF4) a → Within tailRange b → Within tailRange c →
      Within tailRange d → (a.toNat = 0xF0 → 0x90 ≤ b.toNat) → (a.toNat = 0xF4 → b.toNat ≤ 0x8F) →
      Limited [a, b, c, d]

theorem limited_of_isSequence (h : IsSequence s) : Limited s := by
  unfold IsSequence sequences at h
  simp only [List.mem_cons, List.not_mem_nil, or_false, exists_eq_or_imp, exists_eq_left,
    List.forall₂_cons_left_iff, List.forall₂_nil_left_iff] at h
  rcases h with ⟨a, _, ha, rfl, rfl⟩ | ⟨a, _, ha, ⟨b, _, hb, rfl, rfl⟩, rfl⟩ |
    ⟨a, _, ha, ⟨b, _, hb, ⟨c, _, hc, rfl, rfl⟩, rfl⟩, rfl⟩ |
    ⟨a, _, ha, ⟨b, _, hb, ⟨c, _, hc, rfl, rfl⟩, rfl⟩, rfl⟩ |
    ⟨a, _, ha, ⟨b, _, hb, ⟨c, _, hc, rfl, rfl⟩, rfl⟩, rfl⟩ |
    ⟨a, _, ha, ⟨b, _, hb, ⟨c, _, hc, rfl, rfl⟩, rfl⟩, rfl⟩ |
    ⟨a, _, ha, ⟨b, _, hb, ⟨c, _, hc, ⟨d, _, hd, rfl, rfl⟩, rfl⟩, rfl⟩, rfl⟩ |
    ⟨a, _, ha, ⟨b, _, hb, ⟨c, _, hc, ⟨d, _, hd, rfl, rfl⟩, rfl⟩, rfl⟩, rfl⟩ |
    ⟨a, _, ha, ⟨b, _, hb, ⟨c, _, hc, ⟨d, _, hd, rfl, rfl⟩, rfl⟩, rfl⟩, rfl⟩
  · exact .one ha
  · exact .two ha hb
  all_goals simp only [Within, tailRange] at ha hb
  -- four rows have three bytes, and three rows have four
  iterate 4
    exact .three ⟨by omega, by omega⟩ (within_tailRange_iff.2 (by omega)) hc (by omega) (by omega)
  iterate 3
    exact .four ⟨by omega, by omega⟩ (within_tailRange_iff.2 (by omega)) hc hd (by omega) (by omega)

theorem isSequence_of_limited (h : Limited s) : IsSequence s := by
  cases h with
  | one ha => exact ⟨[(0x00, 0x7F)], by decide, .cons ha .nil⟩
  | two ha hb => exact ⟨[(0xC2, 0xDF), tailRange], by decide, .cons ha (.cons hb .nil)⟩
  | @three a b c ha hb hc hlow hhigh =>
    -- the first byte picks the row, and its limits are those of the second range there
    have hrest : List.Forall₂ Within [tailRange] [c] := .cons hc .nil
    have hab := And.intro ha hb
    simp only [Within, tailRange] at hab
    by_cases hE0 : a.toNat = 0xE0
    · exact ⟨[(0xE0, 0xE0), (0xA0, 0xBF), tailRange], by decide,
        .cons ⟨by omega, by omega⟩ (.cons ⟨by omega, by omega⟩ hrest)⟩
    by_cases hEC : a.toNat ≤ 0xEC
    · exact ⟨[(0xE1, 0xEC), tailRange, tailRange], by decide,
        .cons ⟨by omega, by omega⟩ (.cons hb hrest)⟩
    by_cases hED : a.toNat = 0xED
    · exact ⟨[(0xED, 0xED), (0x80, 0x9F), tailRange], by decide,
        .cons ⟨by omega, by omega⟩ (.cons ⟨by omega, by omega⟩ hrest)⟩
    · exact ⟨[(0xEE, 0xEF), tailRange, tailRange], by decide,
        .cons ⟨by omega, by omega⟩ (.cons hb hrest)⟩
  | @four a b c d ha hb hc hd hlow hhigh =>
    -- the same for four bytes, with the limits of the rows that begin there
    have hrest : List.Forall₂ Within [tailRange, tailRange] [c, d] := .cons hc (.cons hd .nil)
    have hab := And.intro ha hb
    simp only [Within, tailRange] at hab
    by_cases hF0 : a.toNat = 0xF0
    · exact ⟨[(0xF0, 0xF0), (0x90, 0xBF), tailRange, tailRange], by decide,
        .cons ⟨by omega, by omega⟩ (.cons ⟨by omega, by omega⟩ hrest)⟩
    by_cases hF3 : a.toNat ≤ 0xF3
    · exact ⟨[(0xF1, 0xF3), tailRange, tailRange, tailRange], by decide,
        .cons ⟨by omega, by omega⟩ (.cons hb hrest)⟩
    · exact ⟨[(0xF4, 0xF4), (0x80, 0x8F), tailRange, tailRange], by decide,
        .cons ⟨by omega, by omega⟩ (.cons ⟨by omega, by omega⟩ hrest)⟩

/-- **A sequence by its first byte.** -/
theorem isSequence_iff_limited : IsSequence s ↔ Limited s :=
  ⟨limited_of_isSequence, isSequence_of_limited⟩

/-! ## Sequences write characters -/

/-- There is a character for every number but those of surrogates and those that are too large. -/
theorem exists_toNat_eq {n : Nat} (h : n < 0xD800 ∨ 0xDFFF < n ∧ n < 0x110000) :
    ∃ c : Char, c.toNat = n :=
  ⟨Char.ofNatAux n h, rfl⟩

theorem ofNat_eq {b : UInt8} {n : Nat} (h : n = b.toNat) : UInt8.ofNat n = b := by
  rw [h, UInt8.ofNat_toNat]

theorem tailByte_eq {b : UInt8} {n : Nat} (h : 0x80 + n % 64 = b.toNat) : tailByte n = b :=
  ofNat_eq h

/-- **A sequence writes a character.** -/
theorem exists_encodeChar_eq (h : Limited s) : ∃ c, encodeChar c = s := by
  -- the number of the character is made of the bits that the bytes carry, and the limits of the
  -- second byte say that it has a character and is not written in fewer bytes
  cases h with
  | @one a ha =>
    simp only [Within] at ha
    obtain ⟨c, hc⟩ := exists_toNat_eq (n := a.toNat) (by omega)
    refine ⟨c, ?_⟩
    unfold encodeChar
    dsimp only
    rw [hc, if_pos (by omega), ofNat_eq rfl]
  | @two a b ha hb =>
    simp only [Within, tailRange] at ha hb
    obtain ⟨c, hc⟩ := exists_toNat_eq (n := (a.toNat - 0xC0) * 64 + (b.toNat - 0x80)) (by omega)
    refine ⟨c, ?_⟩
    unfold encodeChar
    dsimp only
    rw [hc, if_neg (by omega), if_pos (by omega), ofNat_eq (b := a) (by omega),
      tailByte_eq (b := b) (by omega)]
  | @three a b c ha hb hc hlow hhigh =>
    simp only [Within, tailRange] at ha hb hc
    obtain ⟨x, hx⟩ := exists_toNat_eq (n := (a.toNat - 0xE0) * 4096 + (b.toNat - 0x80) * 64 +
      (c.toNat - 0x80)) (by omega)
    refine ⟨x, ?_⟩
    unfold encodeChar
    dsimp only
    rw [hx, if_neg (by omega), if_neg (by omega), if_pos (by omega), ofNat_eq (b := a) (by omega),
      tailByte_eq (b := b) (by omega), tailByte_eq (b := c) (by omega)]
  | @four a b c d ha hb hc hd hlow hhigh =>
    simp only [Within, tailRange] at ha hb hc hd
    obtain ⟨x, hx⟩ := exists_toNat_eq (n := (a.toNat - 0xF0) * 262144 +
      (b.toNat - 0x80) * 4096 + (c.toNat - 0x80) * 64 + (d.toNat - 0x80)) (by omega)
    refine ⟨x, ?_⟩
    unfold encodeChar
    dsimp only
    rw [hx, if_neg (by omega), if_neg (by omega), if_neg (by omega), ofNat_eq (b := a) (by omega),
      tailByte_eq (b := b) (by omega), tailByte_eq (b := c) (by omega),
      tailByte_eq (b := d) (by omega)]

theorem limited_encodeChar (c : Char) : Limited (encodeChar c) := by
  -- no surrogate, so the second byte behind 0xED stays low
  have hvalid := toNat_lt c
  have hfirst : ∀ {n : Nat}, n < 256 → (UInt8.ofNat n).toNat = n := UInt8.toNat_ofNat_of_lt'
  have htail : ∀ n, Within tailRange (tailByte n) := by
    intro n
    rw [within_tailRange_iff, toNat_tailByte]
    omega
  unfold encodeChar
  dsimp only
  by_cases hone : c.toNat < 0x80
  · rw [if_pos hone]
    exact .one (within_ofNat (by omega) (by omega))
  rw [if_neg hone]
  by_cases htwo : c.toNat < 0x800
  · rw [if_pos htwo]
    exact .two (within_ofNat (by omega) (by omega)) (htail _)
  rw [if_neg htwo]
  by_cases hthree : c.toNat < 0x10000
  · -- the limits of the second byte are those of the numbers that need three bytes
    rw [if_pos hthree]
    refine .three (within_ofNat (by omega) (by omega)) (htail _) (htail _) ?_ ?_
    all_goals
      rw [hfirst (by omega), toNat_tailByte]
      omega
  · rw [if_neg hthree]
    refine .four (within_ofNat (by omega) (by omega)) (htail _) (htail _) (htail _) ?_ ?_
    all_goals
      rw [hfirst (by omega), toNat_tailByte]
      omega

/-- **Well-formed bytes** are those that write a text. -/
theorem wellFormed_iff : WellFormed bs ↔ ∃ t, encode t = bs := by
  constructor
  · intro h
    induction h with
    | nil => exact ⟨[], rfl⟩
    | append hs _ ih =>
      obtain ⟨c, hc⟩ := exists_encodeChar_eq (limited_of_isSequence hs)
      obtain ⟨t, ht⟩ := ih
      exact ⟨c :: t, by rw [← hc, ← ht]; rfl⟩
  · rintro ⟨t, rfl⟩
    induction t with
    | nil => exact .nil
    | cons c t ih => exact .append (isSequence_of_limited (limited_encodeChar c)) ih

/-! ## Reading without a fault -/

/-- No fault is found in the bytes that follow. -/
def Faultless (o : Option OpenChar) (bs : Bytes) : Prop := none ∉ decodeFrom o bs

/-- A character that is open goes on with a byte that fits. -/
theorem Faultless.exists_cons {o : OpenChar} (h : Faultless (some o) bs) :
    ∃ b rest, bs = b :: rest ∧ o.least ≤ b.toNat ∧ b.toNat ≤ o.most := by
  cases bs with
  | nil => exact absurd (List.mem_singleton_self none) h
  | cons b rest =>
    refine ⟨b, rest, rfl, ?_⟩
    by_contra hcontra
    unfold Faultless at h
    rw [decodeFrom_cons, nextByte, if_neg (by simpa using hcontra)] at h
    exact h List.mem_cons_self

theorem Faultless.tail {missing value least most : Nat}
    (h : Faultless (some ⟨missing + 2, value, least, most⟩) bs) :
    ∃ b rest, bs = b :: rest ∧ Within (least, most) b ∧
      ∃ value', Faultless (some ⟨missing + 1, value', 0x80, 0xBF⟩) rest := by
  obtain ⟨b, rest, rfl, hb⟩ := h.exists_cons
  unfold Faultless at h
  rw [decodeFrom_tail hb] at h
  exact ⟨b, rest, rfl, hb, _, h⟩

theorem Faultless.last {value least most : Nat}
    (h : Faultless (some ⟨1, value, least, most⟩) bs) :
    ∃ b rest, bs = b :: rest ∧ Within (least, most) b ∧ Faultless none rest := by
  obtain ⟨b, rest, rfl, hb⟩ := h.exists_cons
  unfold Faultless at h
  rw [decodeFrom_last hb] at h
  exact ⟨b, rest, rfl, hb, fun hmem => h (List.mem_cons_of_mem _ hmem)⟩

/-- **Reading without a fault takes a sequence** from the front. -/
theorem Faultless.exists_append (h : Faultless none bs) (hne : bs ≠ []) :
    ∃ s rest, bs = s ++ rest ∧ Limited s ∧ Faultless none rest := by
  obtain ⟨a, bs, rfl⟩ := List.exists_cons_of_ne_nil hne
  have hbyte := a.toNat_lt
  unfold Faultless at h
  rw [decodeFrom_cons, nextByte] at h
  by_cases hone : a.toNat < 0x80
  · rw [firstByte, if_pos hone] at h
    exact ⟨[a], bs, rfl, .one ⟨Nat.zero_le _, by dsimp only; omega⟩,
      fun hmem => h (List.mem_cons_of_mem _ hmem)⟩
  -- a byte that follows another, or one that would start a sequence longer than needed
  by_cases hlow : a.toNat < 0xC2
  · rw [firstByte, if_neg hone, if_pos hlow] at h
    exact absurd List.mem_cons_self h
  by_cases htwo : a.toNat < 0xE0
  · -- the first byte tells how many follow, and each of these is taken in its turn
    rw [firstByte_two ⟨by omega, htwo⟩] at h
    obtain ⟨b, rest, rfl, hb, hrest⟩ := Faultless.last h
    exact ⟨[a, b], rest, rfl, .two ⟨by dsimp only; omega, by dsimp only; omega⟩ hb, hrest⟩
  by_cases hthree : a.toNat < 0xF0
  · rw [firstByte_three ⟨by omega, hthree⟩] at h
    obtain ⟨b, rest, rfl, hb, _, h⟩ := Faultless.tail h
    obtain ⟨c, rest, rfl, hc, hrest⟩ := h.last
    obtain ⟨hb, hE0, hED⟩ := within_tailRange_of_narrowed (by omega) (by omega) hb
    exact ⟨[a, b, c], rest, rfl,
      .three ⟨by dsimp only; omega, by dsimp only; omega⟩ hb hc hE0 hED, hrest⟩
  by_cases hfour : a.toNat < 0xF5
  · rw [firstByte_four ⟨by omega, hfour⟩] at h
    obtain ⟨b, rest, rfl, hb, _, h⟩ := Faultless.tail h
    obtain ⟨c, rest, rfl, hc, _, h⟩ := h.tail
    obtain ⟨d, rest, rfl, hd, hrest⟩ := h.last
    obtain ⟨hb, hF0, hF4⟩ := within_tailRange_of_narrowed (by omega) (by omega) hb
    exact ⟨[a, b, c, d], rest, rfl,
      .four ⟨by dsimp only; omega, by dsimp only; omega⟩ hb hc hd hF0 hF4, hrest⟩
  · rw [firstByte, if_neg hone, if_neg hlow, if_neg htwo, if_neg hthree, if_neg hfour] at h
    exact absurd List.mem_cons_self h

theorem wellFormed_of_faultless (h : Faultless none bs) : WellFormed bs := by
  -- by the number of bytes, since what is left is shorter by a whole sequence
  induction hlength : bs.length using Nat.strongRecOn generalizing bs with
  | ind n ih =>
    by_cases hne : bs = []
    · rw [hne]
      exact .nil
    · obtain ⟨s, rest, rfl, hs, hrest⟩ := h.exists_append hne
      refine .append (isSequence_of_limited hs) (ih rest.length ?_ hrest rfl)
      -- a sequence has a byte at least
      have hpos : 0 < s.length := by cases hs <;> exact Nat.succ_pos _
      rw [← hlength, List.length_append]
      omega

theorem faultless_of_decodeFrom (h : decodeFrom none bs = t.map some) : Faultless none bs := by
  unfold Faultless
  rw [h]
  intro hmem
  obtain ⟨c, -, hc⟩ := List.mem_map.1 hmem
  cases hc

/-- A strict reading takes characters alone. -/
theorem faultless_of_decodeStrict? (h : decodeStrict? bs = some t) : Faultless none bs :=
  faultless_of_decodeFrom (mapM_id_eq_some_iff.1 h)

/-- **What is read without a fault** is the text that the bytes write. -/
theorem decodeStrict?_eq_some_iff : decodeStrict? bs = some t ↔ encode t = bs := by
  constructor
  · intro h
    obtain ⟨u, hu⟩ := wellFormed_iff.1 (wellFormed_of_faultless (faultless_of_decodeStrict? h))
    rw [← hu, decodeStrict?_encode, Option.some.injEq] at h
    rw [← h, hu]
  · rintro rfl
    exact decodeStrict?_encode t

/-- **Reading with replacements** gives the text back that the bytes write, exactly when there is
    one. -/
theorem encode_decode_iff : encode (decode bs) = bs ↔ WellFormed bs := by
  constructor
  · intro h
    exact wellFormed_iff.2 ⟨decode bs, h⟩
  · intro h
    obtain ⟨t, rfl⟩ := wellFormed_iff.1 h
    rw [decode_encode]

end SourceCensus.Text
