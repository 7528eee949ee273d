import SourceCensus.Text.Utf8

/-! # Reading back what was written

    A character is written as a first byte, which says how many follow, and bytes with six bits
    each. Reading collects these bits (`decodeFrom_tail`, `decodeFrom_last`), and a character is
    no surrogate, so the limits that the first byte sets for the second one are kept
    (`decodeFrom_encodeChar`). So every text is read as it was written (`decodeStrict?_encode`,
    `decode_encode`).

    A strict reading that tells the first fault stops at the same bytes as one that does not
    (`toOption_decodeStrict`).
-/

namespace SourceCensus.Text

variable {b : UInt8} {bs : Bytes} {missing value least most n : Nat}

/-! ## One byte -/

theorem toNat_tailByte (n : Nat) : (tailByte n).toNat = 0x80 + n % 64 := by
  unfold tailByte
  rw [UInt8.toNat_ofNat']
  omega

theorem decodeFrom_cons (o : Option OpenChar) (b : UInt8) (bs : Bytes) :
    decodeFrom o (b :: bs) =
      (nextByte o b.toNat).1 ++ decodeFrom (nextByte o b.toNat).2 bs := by
  cases o <;> rfl

/-- A byte that is not the last one of its character. -/
theorem decodeFrom_tail (h : least ≤ b.toNat ∧ b.toNat ≤ most) :
    decodeFrom (some ⟨missing + 2, value, least, most⟩) (b :: bs) =
      decodeFrom (some ⟨missing + 1, value * 64 + (b.toNat - 0x80), 0x80, 0xBF⟩) bs := by
  rw [decodeFrom_cons, nextByte, if_pos (by simpa using h)]
  rfl

/-- The last byte of a character. -/
theorem decodeFrom_last (h : least ≤ b.toNat ∧ b.toNat ≤ most) :
    decodeFrom (some ⟨1, value, least, most⟩) (b :: bs) =
      some (Char.ofNat (value * 64 + (b.toNat - 0x80))) :: decodeFrom none bs := by
  rw [decodeFrom_cons, nextByte, if_pos (by simpa using h)]
  rfl

/-! ## One character -/

theorem toNat_lt (c : Char) : c.toNat < 0xD800 ∨ 0xDFFF < c.toNat ∧ c.toNat < 0x110000 := c.valid

theorem firstByte_two (h : 0xC2 ≤ n ∧ n < 0xE0) :
    firstByte n = ([], some ⟨1, n - 0xC0, 0x80, 0xBF⟩) := by
  rw [firstByte, if_neg (by omega), if_neg (by omega), if_pos h.2]

theorem firstByte_three (h : 0xE0 ≤ n ∧ n < 0xF0) :
    firstByte n = ([], some ⟨2, n - 0xE0, if n = 0xE0 then 0xA0 else 0x80,
      if n = 0xED then 0x9F else 0xBF⟩) := by
  rw [firstByte, if_neg (by omega), if_neg (by omega), if_neg (by omega), if_pos h.2]

theorem firstByte_four (h : 0xF0 ≤ n ∧ n < 0xF5) :
    firstByte n = ([], some ⟨3, n - 0xF0, if n = 0xF0 then 0x90 else 0x80,
      if n = 0xF4 then 0x8F else 0xBF⟩) := by
  rw [firstByte, if_neg (by omega), if_neg (by omega), if_neg (by omega), if_neg (by omega),
    if_pos h.2]

/-- The first byte of a character of several bytes, which leaves that character open. -/
theorem decodeFrom_open {o : OpenChar} (hn : n < 256) (h : firstByte n = ([], some o)) :
    decodeFrom none (UInt8.ofNat n :: bs) = decodeFrom (some o) bs := by
  rw [decodeFrom_cons, UInt8.toNat_ofNat_of_lt' hn, nextByte, h]
  rfl

/-- **A character is read back,** whatever follows it. -/
theorem decodeFrom_encodeChar (c : Char) (bs : Bytes) :
    decodeFrom none (encodeChar c ++ bs) = some c :: decodeFrom none bs := by
  have hvalid := toNat_lt c
  have hread : ∀ {m}, m = c.toNat → some (Char.ofNat m) = some c := by
    intro m hm
    rw [hm, Char.ofNat_toNat]
  unfold encodeChar
  dsimp only
  -- as many cases as there are lengths, told apart by the number of the character
  by_cases hone : c.toNat < 0x80
  · rw [if_pos hone, List.singleton_append, decodeFrom_cons,
      UInt8.toNat_ofNat_of_lt' (Nat.lt_trans hone (by decide)), nextByte, firstByte, if_pos hone,
      Char.ofNat_toNat]
    rfl
  rw [if_neg hone]
  by_cases htwo : c.toNat < 0x800
  · rw [if_pos htwo]
    show decodeFrom none (_ :: _ :: bs) = _
    rw [decodeFrom_open (by omega) (firstByte_two (by omega)),
      decodeFrom_last (by rw [toNat_tailByte]; omega), toNat_tailByte, hread (by omega)]
  rw [if_neg htwo]
  -- the limits of the second byte keep out what is written shorter, surrogates and large numbers
  by_cases hthree : c.toNat < 0x10000
  · rw [if_pos hthree]
    show decodeFrom none (_ :: _ :: _ :: bs) = _
    rw [decodeFrom_open (by omega) (firstByte_three (by omega)),
      decodeFrom_tail (by rw [toNat_tailByte]; split <;> split <;> omega),
      decodeFrom_last (by rw [toNat_tailByte]; omega), toNat_tailByte, toNat_tailByte,
      hread (by omega)]
  · rw [if_neg hthree]
    show decodeFrom none (_ :: _ :: _ :: _ :: bs) = _
    rw [decodeFrom_open (by omega) (firstByte_four (by omega)),
      decodeFrom_tail (by rw [toNat_tailByte]; split <;> split <;> omega),
      decodeFrom_tail (by rw [toNat_tailByte]; omega),
      decodeFrom_last (by rw [toNat_tailByte]; omega), toNat_tailByte, toNat_tailByte,
      toNat_tailByte, hread (by omega)]

/-! ## Texts -/

theorem decodeFrom_encode (t : Text) : decodeFrom none (encode t) = t.map some := by
  unfold encode
  induction t with
  | nil => rfl
  | cons c t ih => rw [List.flatMap_cons, decodeFrom_encodeChar, ih, List.map_cons]

/-- All outcomes can be taken together when each of them is a character. -/
theorem mapM_id_eq_some_iff {xs : List (Option Char)} {t : Text} :
    xs.mapM id = some t ↔ xs = t.map some := by
  induction xs generalizing t with
  | nil => cases t <;> simp
  | cons x xs ih =>
    have hstep : (x :: xs).mapM id = some t ↔
        ∃ c cs, x = some c ∧ xs.mapM id = some cs ∧ c :: cs = t := by
      rw [List.mapM_cons]
      simp [Option.bind_eq_some_iff]
    rw [hstep]
    constructor
    · rintro ⟨c, cs, rfl, hcs, rfl⟩
      rw [ih.1 hcs, List.map_cons]
    · intro h
      cases t with
      | nil => cases h
      | cons c cs =>
        obtain ⟨hx, hxs⟩ := List.cons.inj h
        exact ⟨c, cs, hx, ih.2 hxs, rfl⟩

/-- **A text that was written has no fault,** and is read as it was written. -/
theorem decodeStrict?_encode (t : Text) : decodeStrict? (encode t) = some t := by
  unfold decodeStrict?
  rw [decodeFrom_encode, mapM_id_eq_some_iff]

theorem decode_encode (t : Text) : decode (encode t) = t := by
  unfold decode
  rw [decodeFrom_encode, List.map_map]
  exact List.map_id t

/-! ## The first fault -/

theorem firstByte_cases (n : Nat) :
    (∃ c, firstByte n = ([some c], none)) ∨ firstByte n = ([none], none) ∨
      ∃ o, firstByte n = ([], some o) := by
  unfold firstByte
  split
  · exact .inl ⟨_, rfl⟩
  · split
    · exact .inr (.inl rfl)
    · split
      · exact .inr (.inr ⟨_, rfl⟩)
      · split
        · exact .inr (.inr ⟨_, rfl⟩)
        · split
          · exact .inr (.inr ⟨_, rfl⟩)
          · exact .inr (.inl rfl)

theorem nextByte_cases (o : OpenChar) (n : Nat) :
    (∃ c, nextByte (some o) n = ([some c], none)) ∨
      (∃ done still, nextByte (some o) n = (none :: done, still)) ∨
      ∃ o', nextByte (some o) n = ([], some o') := by
  rw [nextByte]
  by_cases hfits : (o.least ≤ n && n ≤ o.most) = true
  · rw [if_pos hfits]
    by_cases hlast : o.missing ≤ 1
    · exact .inl ⟨_, if_pos hlast⟩
    · exact .inr (.inr ⟨_, if_neg hlast⟩)
  · rw [if_neg hfits]
    exact .inr (.inl ⟨_, _, rfl⟩)

/-- **A fault is found** exactly when reading meets one. -/
theorem faultFrom_eq_none_iff {position : Nat} {held : Option (OpenChar × Bytes)} :
    faultFrom position held bs = none ↔ none ∉ decodeFrom (held.map Prod.fst) bs := by
  induction bs generalizing position held with
  | nil =>
    cases held with
    | none => simp [faultFrom, decodeFrom]
    | some p => simp [faultFrom, decodeFrom]
  | cons b bs ih =>
    cases held with
    | none =>
      rw [Option.map_none, decodeFrom_cons, nextByte, faultFrom]
      obtain ⟨c, hbyte⟩ | hbyte | ⟨o, hbyte⟩ := firstByte_cases b.toNat
      · simp [hbyte, ih]
      · simp [hbyte]
      · simp [hbyte, ih]
    | some p =>
      rw [Option.map_some, decodeFrom_cons, faultFrom]
      obtain ⟨c, hbyte⟩ | ⟨done, still, hbyte⟩ | ⟨o, hbyte⟩ := nextByte_cases p.1 b.toNat
      · simp [hbyte, ih]
      · simp [hbyte]
      · simp [hbyte, ih]

/-- A strict reading gives the same text, whether it tells faults or not. -/
theorem toOption_decodeStrict (bs : Bytes) : (decodeStrict bs).toOption = decodeStrict? bs := by
  unfold decodeStrict decodeStrict?
  by_cases hnone : none ∈ decodeFrom none bs
  · cases hfault : faultFrom 0 none bs with
    | none => exact absurd hnone (faultFrom_eq_none_iff.1 hfault)
    | some fault =>
      dsimp only [Except.toOption]
      rw [eq_comm, Option.eq_none_iff_forall_ne_some]
      intro t ht
      rw [mapM_id_eq_some_iff.1 ht] at hnone
      simp at hnone
  · have hfault : faultFrom 0 none bs = none := faultFrom_eq_none_iff.2 hnone
    rw [hfault]
    dsimp only [Except.toOption]
    rw [eq_comm, mapM_id_eq_some_iff]
    -- where no byte is at fault, what is read are characters, and they are the text
    unfold decode
    rw [List.map_map]
    refine (List.map_id _).symm.trans (List.map_congr_left ?_)
    intro x hx
    cases x with
    | none => exact absurd hx hnone
    | some c => rfl

/-- **A text that was written is read** without a fault to tell. -/
theorem decodeStrict_encode (t : Text) : decodeStrict (encode t) = .ok t := by
  have h := toOption_decodeStrict (encode t)
  rw [decodeStrict?_encode] at h
  cases hread : decodeStrict (encode t) with
  | error fault =>
    rw [hread] at h
    cases h
  | ok u =>
    rw [hread] at h
    cases h
    rfl

end SourceCensus.Text
