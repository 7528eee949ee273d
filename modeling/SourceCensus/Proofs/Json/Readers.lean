import SourceCensus.Json.Reader

/-! # What readers take

    A reader takes a value from the start of a text and leaves the rest (`Reads`). The readers of
    words and numbers report no errors: they find something or not (`Finds`). Each lemma here says
    of one reader what it takes from a text, given what the readers that it calls take from theirs:
    characters of a string, a number, the items of an array, the members of an object. No lemma says
    how the text came about.
-/

namespace SourceCensus.Json

variable {α : Type} {t s s' more after r cs key : List Char} {c u : Char} {v : Value}
  {vs : List Value} {ms : List (String × Value)} {start : Nat}

/-- A reader takes a value from the start of a text and leaves the rest. -/
def Reads (reader : (t : List Char) → Except ReadError (α × Rest t)) (t : List Char) (a : α)
    (r : List Char) : Prop :=
  ∃ h, reader t = .ok (a, ⟨r, h⟩)

/-- A reader that reports no errors finds a value at the start of a text and leaves the rest. -/
def Finds (reader : (t : List Char) → Option (α × Rest t)) (t : List Char) (a : α)
    (r : List Char) : Prop :=
  ∃ h, reader t = some (a, ⟨r, h⟩)

/-! ## Strings -/

theorem readsChars_quote (r : List Char) : Reads (readChars start) ('\x22' :: r) [] r := by
  refine ⟨by simp, ?_⟩
  rw [readChars.eq_def]
  dsimp only
  rw [if_pos rfl]

/-- A character that stands for itself. -/
theorem readsChars_cons (hquote : c ≠ '\x22') (hcontrol : ¬ c.toNat < 0x20) (hslash : c ≠ '\\')
    (h : Reads (readChars start) t cs r) : Reads (readChars start) (c :: t) (c :: cs) r := by
  obtain ⟨hr, hread⟩ := h
  refine ⟨Nat.lt_succ_of_lt hr, ?_⟩
  rw [readChars.eq_def]
  dsimp only
  rw [if_neg hquote, if_neg hcontrol, if_neg hslash, hread]

/-- A character that is escaped by a letter. -/
theorem readsChars_escape {e : Char} (hu : e ≠ 'u') (he : escapedChar? e = some u)
    (h : Reads (readChars start) t cs r) :
    Reads (readChars start) ('\\' :: e :: t) (u :: cs) r := by
  obtain ⟨hr, hread⟩ := h
  refine ⟨Nat.lt_succ_of_lt (Nat.lt_succ_of_lt hr), ?_⟩
  rw [readChars, if_neg (by decide), if_neg (by decide), if_pos rfl]
  dsimp only
  rw [if_neg hu, he]
  dsimp only
  rw [hread]

/-- A character that is escaped by its number. -/
theorem readsChars_unicode (hu : readUnicode s = .ok (u, t)) (h : Reads (readChars start) t cs r) :
    Reads (readChars start) ('\\' :: 'u' :: s) (u :: cs) r := by
  obtain ⟨hr, hread⟩ := h
  have hlt : t.length < s.length := length_readUnicode hu
  refine ⟨Nat.lt_succ_of_lt (Nat.lt_succ_of_lt (Nat.lt_trans hr hlt)), ?_⟩
  rw [readChars, if_neg (by decide), if_neg (by decide), if_pos rfl]
  dsimp only
  rw [if_pos rfl]
  -- the reader uses the equation of this match for its bound, so it cannot be rewritten
  split
  · rename_i herror
    rw [hu] at herror
    cases herror
  · rename_i hok
    rw [hu] at hok
    cases hok
    rw [hread]

theorem readsValue_string (h : ∀ start, Reads (readChars start) t cs r) :
    Reads readValue ('\x22' :: t) (.string (String.ofList cs)) r := by
  obtain ⟨hr, hread⟩ := h ('\x22' :: t).length
  refine ⟨Nat.lt_succ_of_lt hr, ?_⟩
  rw [readValue.eq_def]
  dsimp only
  rw [if_pos rfl, hread]

/-! ## Numbers and literals -/

/-- A whole number, where no fraction and no exponent follows. -/
theorem findsMagnitude {ds : List Char} (negative : Bool) (hwhole : wholeDigits (ds ++ r) = ds)
    (hne : ds ≠ []) (hfraction : fractionDigits r = []) (hexponent : exponentPart r = none) :
    Finds (readMagnitude? negative) (ds ++ r)
      (.int (if negative then -(natOfDigits ds : Int) else natOfDigits ds)) r := by
  have hpos := List.length_pos_iff.2 hne
  refine ⟨by rw [List.length_append]; omega, ?_⟩
  have hlength : ¬ (wholeDigits (ds ++ r)).length = 0 := by
    rw [hwhole]
    omega
  unfold readMagnitude?
  simp only [hwhole, List.drop_left, hfraction, hexponent, List.isEmpty_nil, if_true]
  rw [dif_neg (by omega)]

theorem findsNumber_negative (h : Finds (readMagnitude? true) t v r) :
    Finds readNumber? ('-' :: t) v r := by
  obtain ⟨hr, hread⟩ := h
  refine ⟨Nat.lt_succ_of_lt hr, ?_⟩
  rw [readNumber?, hread]

theorem findsNumber_positive (hsign : c ≠ '-') (h : Finds (readMagnitude? false) (c :: t) v r) :
    Finds readNumber? (c :: t) v r := by
  obtain ⟨hr, hread⟩ := h
  refine ⟨hr, ?_⟩
  rw [readNumber?, hread]
  intro rest heq
  exact hsign (List.cons.inj heq).1

/-- The characters with which strings, arrays and objects begin. -/
def isOpening (c : Char) : Bool := c = '\x22' || c = '[' || c = '{'

/-- What begins no string, array or object is a literal or a number. -/
theorem readValue_of_not_opening {p : Value × Rest (c :: t)} (h : isOpening c = false)
    (hfound : (readLiteral? (c :: t)).or (readNumber? (c :: t)) = some p) :
    readValue (c :: t) = .ok p := by
  unfold isOpening at h
  rw [Bool.or_eq_false_iff, Bool.or_eq_false_iff, decide_eq_false_iff_not, decide_eq_false_iff_not,
    decide_eq_false_iff_not] at h
  rw [readValue.eq_def]
  dsimp only
  rw [if_neg h.1.1, if_neg h.1.2, if_neg h.2, hfound]

theorem readsValue_literal (hc : isOpening c = false) (h : Finds readLiteral? (c :: t) v r) :
    Reads readValue (c :: t) v r := by
  obtain ⟨hr, hread⟩ := h
  refine ⟨hr, ?_⟩
  apply readValue_of_not_opening hc
  rw [hread, Option.some_or]

theorem readsValue_number (hc : isOpening c = false) (hliteral : readLiteral? (c :: t) = none)
    (h : Finds readNumber? (c :: t) v r) : Reads readValue (c :: t) v r := by
  obtain ⟨hr, hread⟩ := h
  refine ⟨hr, ?_⟩
  apply readValue_of_not_opening hc
  rw [hliteral, hread, Option.none_or]

/-! ## Arrays -/

theorem readsValue_emptyArray (h : skipBlanks t = ']' :: r) :
    Reads readValue ('[' :: t) (.array []) r := by
  have hr := length_le_of_skipBlanks h
  refine ⟨Nat.lt_succ_of_lt hr, ?_⟩
  rw [readValue.eq_def]
  dsimp only
  rw [if_neg (by decide), if_pos rfl]
  split
  · rename_i hnil
    rw [h] at hnil
    cases hnil
  · rename_i hcons
    rw [h] at hcons
    cases hcons
    rw [if_pos rfl]

theorem readsValue_array (hs : skipBlanks t = s) (hclose : ∀ c ∈ s.head?, c ≠ ']')
    (h : Reads readItems s vs r) : Reads readValue ('[' :: t) (.array vs) r := by
  obtain ⟨hr, hread⟩ := h
  refine ⟨Nat.lt_succ_of_lt (Nat.lt_of_lt_of_le hr (length_le_of_skipBlanks hs)), ?_⟩
  rw [readValue.eq_def]
  dsimp only
  rw [if_neg (by decide), if_pos rfl]
  split
  · rename_i hnil
    rw [← hs, hnil] at hr
    cases hr
  · rename_i d rest hcons
    rw [hs] at hcons
    subst hcons
    rw [if_neg (hclose d rfl), hread]

theorem readsItems_last (h : Reads readValue t v s) (hs : skipBlanks s = ']' :: r) :
    Reads readItems t [v] r := by
  obtain ⟨hr, hread⟩ := h
  have hle := length_le_of_skipBlanks hs
  refine ⟨Nat.lt_trans hle hr, ?_⟩
  rw [readItems.eq_def, hread]
  dsimp only
  split
  · rename_i hnil
    rw [hs] at hnil
    cases hnil
  · rename_i hcons
    rw [hs] at hcons
    cases hcons
    rw [if_pos rfl]

theorem readsItems_cons (h : Reads readValue t v s) (hs : skipBlanks s = ',' :: more)
    (hrest : Reads readItems (skipBlanks more) vs r) : Reads readItems t (v :: vs) r := by
  obtain ⟨hr, hread⟩ := h
  obtain ⟨hr', hread'⟩ := hrest
  have hle := length_le_of_skipBlanks hs
  have hle' := length_skipBlanks_le more
  refine ⟨Nat.lt_trans (Nat.lt_of_lt_of_le hr' hle') (Nat.lt_trans hle hr), ?_⟩
  rw [readItems.eq_def, hread]
  dsimp only
  split
  · rename_i hnil
    rw [hs] at hnil
    cases hnil
  · rename_i hcons
    rw [hs] at hcons
    cases hcons
    rw [if_neg (by decide), if_pos rfl, hread']

/-! ## Objects -/

theorem readsValue_emptyObject (h : skipBlanks t = '\x7d' :: r) :
    Reads readValue ('\x7b' :: t) (.object []) r := by
  have hr := length_le_of_skipBlanks h
  refine ⟨Nat.lt_succ_of_lt hr, ?_⟩
  rw [readValue.eq_def]
  dsimp only
  rw [if_neg (by decide), if_neg (by decide), if_pos rfl]
  split
  · rename_i hnil
    rw [h] at hnil
    cases hnil
  · rename_i hcons
    rw [h] at hcons
    cases hcons
    rw [if_pos rfl]

theorem readsValue_object (hs : skipBlanks t = s) (hclose : ∀ c ∈ s.head?, c ≠ '\x7d')
    (h : Reads readMembers s ms r) :
    Reads readValue ('\x7b' :: t) (.object (Members.ofList ms)) r := by
  obtain ⟨hr, hread⟩ := h
  refine ⟨Nat.lt_succ_of_lt (Nat.lt_of_lt_of_le hr (length_le_of_skipBlanks hs)), ?_⟩
  rw [readValue.eq_def]
  dsimp only
  rw [if_neg (by decide), if_neg (by decide), if_pos rfl]
  split
  · rename_i hnil
    rw [← hs, hnil] at hr
    cases hr
  · rename_i d rest hcons
    rw [hs] at hcons
    subst hcons
    rw [if_neg (hclose d rfl), hread]

/-- The member before the closing brace. -/
theorem readsMembers_last (hkey : ∀ start, Reads (readChars start) t key s)
    (hcolon : skipBlanks s = ':' :: more)
    (hvalue : Reads readValue (skipBlanks more) v s') (hend : skipBlanks s' = '\x7d' :: r) :
    Reads readMembers ('\x22' :: t) [(String.ofList key, v)] r := by
  obtain ⟨hs, hread⟩ := hkey ('\x22' :: t).length
  obtain ⟨hs', hread'⟩ := hvalue
  have hmore := length_le_of_skipBlanks hcolon
  have hskip := length_skipBlanks_le more
  have hr := length_le_of_skipBlanks hend
  refine ⟨by simp only [List.length_cons] at *; omega, ?_⟩
  -- key, colon, value and brace are read in turn
  rw [readMembers.eq_def]
  dsimp only
  rw [if_pos rfl, hread]
  dsimp only
  split
  · rename_i hnil
    rw [hcolon] at hnil
    cases hnil
  · rename_i hcons
    rw [hcolon] at hcons
    cases hcons
    rw [if_pos rfl, hread']
    dsimp only
    split
    · rename_i hnil
      rw [hend] at hnil
      cases hnil
    · rename_i hcons
      rw [hend] at hcons
      cases hcons
      rw [if_pos rfl]

/-- A member with others behind it. -/
theorem readsMembers_cons (hkey : ∀ start, Reads (readChars start) t key s)
    (hcolon : skipBlanks s = ':' :: more)
    (hvalue : Reads readValue (skipBlanks more) v s') (hend : skipBlanks s' = ',' :: after)
    (hrest : Reads readMembers (skipBlanks after) ms r) :
    Reads readMembers ('\x22' :: t) ((String.ofList key, v) :: ms) r := by
  obtain ⟨hs, hread⟩ := hkey ('\x22' :: t).length
  obtain ⟨hs', hread'⟩ := hvalue
  obtain ⟨hr, hread''⟩ := hrest
  have hmore := length_le_of_skipBlanks hcolon
  have hskip := length_skipBlanks_le more
  have hafter := length_le_of_skipBlanks hend
  have hskip' := length_skipBlanks_le after
  refine ⟨by simp only [List.length_cons] at *; omega, ?_⟩
  -- key, colon, value and comma are read in turn, and then the others
  rw [readMembers.eq_def]
  dsimp only
  rw [if_pos rfl, hread]
  dsimp only
  split
  · rename_i hnil
    rw [hcolon] at hnil
    cases hnil
  · rename_i hcons
    rw [hcolon] at hcons
    cases hcons
    rw [if_pos rfl, hread']
    dsimp only
    split
    · rename_i hnil
      rw [hend] at hnil
      cases hnil
    · rename_i hcons
      rw [hend] at hcons
      cases hcons
      rw [if_neg (by decide), if_pos rfl, hread'']

/-! ## Documents -/

/-- A document that is read to its end. -/
theorem read_of_reads (hmark : t.head? ≠ some '\ufeff')
    (h : Reads readValue (skipBlanks t) v r) (hr : skipBlanks r = []) : read t = .ok v := by
  obtain ⟨hlt, hread⟩ := h
  rw [read, if_neg hmark, hread]
  dsimp only
  rw [hr]

end SourceCensus.Json
