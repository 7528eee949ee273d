import SourceCensus.Json.Writer
import SourceCensus.Proofs.Json.Readers

/-! # Reading back what has no parts

    A character of a string is written as itself, as a letter behind a backslash, or as its number,
    and each of these is read back (`readsChars_writtenChar`). An integer is written without a
    fraction and without a zero at its front, so that its digits are all that is read
    (`wholeDigits_toDigits`), provided that no digit stands behind them.

    Behind a value there stands nothing, a comma, or a line feed (`Delimited`).
-/

namespace SourceCensus.Json

open Text Number

variable {t r cs : List Char} {c : Char} {v : Value} {n : Nat}

/-! ## Blanks -/

theorem skipBlanks_cons (hc : isJsonBlank c = false) (t : List Char) :
    skipBlanks (c :: t) = c :: t :=
  List.dropWhile_cons_of_neg (by rw [hc]; exact Bool.false_ne_true)

theorem skipBlanks_newLine (indent level : Nat) (t : List Char) :
    skipBlanks (newLine indent level ++ t) = skipBlanks t := by
  unfold skipBlanks
  apply List.dropWhile_append_of_pos
  intro c hc
  unfold newLine at hc
  rcases List.mem_cons.1 hc with rfl | hspace
  · rfl
  · rw [List.eq_of_mem_replicate hspace]
    rfl

/-- What ends a value: nothing, or a comma or a line feed. -/
def Delimited (t : List Char) : Prop := ∀ c ∈ t.head?, c = ',' ∨ c = '\n'

theorem delimited_nil : Delimited [] := fun c hc => by cases hc

theorem delimited_comma (t : List Char) : Delimited (',' :: t) := by
  intro c hc
  rw [List.head?_cons, Option.mem_some_iff] at hc
  exact .inl hc.symm

theorem delimited_newLine (indent level : Nat) (t : List Char) :
    Delimited (newLine indent level ++ t) := by
  intro c hc
  unfold newLine at hc
  rw [List.cons_append, List.head?_cons, Option.mem_some_iff] at hc
  exact .inr hc.symm

theorem Delimited.cases (h : Delimited r) : r = [] ∨ (∃ t, r = ',' :: t) ∨ ∃ t, r = '\n' :: t := by
  cases r with
  | nil => exact .inl rfl
  | cons c t =>
    rcases h c rfl with rfl | rfl
    · exact .inr (.inl ⟨t, rfl⟩)
    · exact .inr (.inr ⟨t, rfl⟩)

/-- What ends a value goes on with no digit, fraction or exponent. -/
theorem Delimited.takeWhile (h : Delimited r) : r.takeWhile isAsciiDigit = [] := by
  obtain rfl | ⟨t, rfl⟩ | ⟨t, rfl⟩ := h.cases <;> rfl

theorem Delimited.fractionDigits (h : Delimited r) : fractionDigits r = [] := by
  obtain rfl | ⟨t, rfl⟩ | ⟨t, rfl⟩ := h.cases <;> rfl

theorem Delimited.exponentPart (h : Delimited r) : exponentPart r = none := by
  obtain rfl | ⟨t, rfl⟩ | ⟨t, rfl⟩ := h.cases <;> rfl

/-! ## Strings -/

theorem hexValue?_digitChar : ∀ d < 16, hexValue? (Nat.digitChar d) = some d := by decide

theorem hexDigits_four : ∀ n < 0x20,
    hexDigits 4 n = ['0', '0', Nat.digitChar (n / 16), Nat.digitChar (n % 16)] := by decide

/-- The number of a control character is read back from its four digits. -/
theorem readUnicode_hexDigits (hn : n < 0x20) (ht : t ≠ []) :
    readUnicode (hexDigits 4 n ++ t) = .ok (Char.ofNat n, t) := by
  have hquad : hexQuad? '0' '0' (Nat.digitChar (n / 16)) (Nat.digitChar (n % 16)) = some n := by
    unfold hexQuad?
    rw [hexValue?_digitChar _ (by omega), hexValue?_digitChar _ (by omega)]
    show some (((0 * 16 + 0) * 16 + n / 16) * 16 + n % 16) = some n
    congr 1
    omega
  -- a control character is no half of a pair
  have hlead : isLeadSurrogate n = false := by
    unfold isLeadSurrogate
    simp only [Bool.and_eq_false_iff, decide_eq_false_iff_not]
    omega
  have htrail : isTrailSurrogate n = false := by
    unfold isTrailSurrogate
    simp only [Bool.and_eq_false_iff, decide_eq_false_iff_not]
    omega
  rw [hexDigits_four n hn]
  show readUnicode ('0' :: '0' :: _ :: _ :: t) = _
  rw [readUnicode, if_neg (by simpa using ht), hquad]
  dsimp only
  rw [hlead, if_neg Bool.false_ne_true, unitChar, hlead, htrail]
  rfl

/-- What is written for a character: a letter behind a backslash, its number, or itself. -/
theorem writtenChar_cases (c : Char) :
    (∃ e, writtenChar c = ['\\', e] ∧ e ≠ 'u' ∧ escapedChar? e = some c) ∨
      c.toNat < 0x20 ∧ writtenChar c = '\\' :: 'u' :: hexDigits 4 c.toNat ∨
      (c ≠ '\x22' ∧ ¬ c.toNat < 0x20 ∧ c ≠ '\\') ∧ writtenChar c = [c] := by
  by_cases hletter : c ∈ ['\x22', '\\', '\n', '\r', '\t', '\x0c', '\x08']
  · left
    simp only [List.mem_cons, List.not_mem_nil, or_false] at hletter
    rcases hletter with rfl | rfl | rfl | rfl | rfl | rfl | rfl <;>
      exact ⟨_, rfl, by decide, by decide⟩
  · right
    simp only [List.mem_cons, List.not_mem_nil, or_false, not_or] at hletter
    unfold writtenChar
    simp only [hletter, if_false]
    by_cases hcontrol : c.toNat < 0x20
    · exact .inl ⟨hcontrol, if_pos hcontrol⟩
    · exact .inr ⟨⟨hletter.1, hcontrol, hletter.2.1⟩, if_neg hcontrol⟩

/-- **One character is read back,** whatever follows it. -/
theorem readsChars_writtenChar {start : Nat} (c : Char) (h : Reads (readChars start) t cs r) :
    Reads (readChars start) (writtenChar c ++ t) (c :: cs) r := by
  obtain ⟨e, hwritten, hu, he⟩ | ⟨hcontrol, hwritten⟩ | ⟨⟨hquote, hcontrol, hslash⟩, hwritten⟩ :=
    writtenChar_cases c
  · rw [hwritten]
    exact readsChars_escape hu he h
  · -- the closing quote at least is still to be read
    have ht : t ≠ [] := by
      obtain ⟨hr, -⟩ := h
      exact List.length_pos_iff.1 (Nat.zero_lt_of_lt hr)
    have hescape := readUnicode_hexDigits hcontrol ht
    rw [Char.ofNat_toNat] at hescape
    rw [hwritten]
    exact readsChars_unicode hescape h
  · rw [hwritten]
    exact readsChars_cons hquote hcontrol hslash h

theorem readsChars_written (start : Nat) (cs r : List Char) :
    Reads (readChars start) (cs.flatMap writtenChar ++ '\x22' :: r) cs r := by
  induction cs with
  | nil => exact readsChars_quote r
  | cons c cs ih =>
    rw [List.flatMap_cons, List.append_assoc]
    exact readsChars_writtenChar c ih

/-- **A string is read back.** -/
theorem readsChars_writeString (s : String) (r : List Char) :
    ∃ t, writeString s ++ r = '\x22' :: t ∧ ∀ start, Reads (readChars start) t s.toList r := by
  refine ⟨s.toList.flatMap writtenChar ++ '\x22' :: r, ?_,
    fun start => readsChars_written start s.toList r⟩
  unfold writeString
  rw [List.cons_append, List.append_assoc, List.singleton_append]

theorem skipBlanks_writeString (s : String) (r : List Char) :
    skipBlanks (writeString s ++ r) = writeString s ++ r :=
  skipBlanks_cons rfl _

/-! ## Whole numbers -/

theorem isAsciiDigit_of_mem_toDigits (hc : c ∈ Nat.toDigits 10 n) : isAsciiDigit c = true := by
  have h := Nat.isDigit_of_mem_toDigits (by decide) (by decide) hc
  unfold Char.isDigit at h
  unfold isAsciiDigit
  exact h

theorem exists_toDigits_eq_cons (n : Nat) :
    ∃ c ds, Nat.toDigits 10 n = c :: ds ∧ isAsciiDigit c = true := by
  obtain ⟨c, ds, hds⟩ := List.exists_cons_of_ne_nil (Nat.toDigits_ne_nil (n := n) (b := 10))
  exact ⟨c, ds, hds, isAsciiDigit_of_mem_toDigits (by rw [hds]; simp)⟩

theorem natOfDigits_toDigits (n : Nat) : natOfDigits (Nat.toDigits 10 n) = n := by
  have h : Nat.ofDigitChars 10 (Nat.toDigits 10 n) 0 = n := Nat.ofDigitChars_ten_toDigits
  have hstep : (fun n c => n * 10 + digitValue c) = fun n c => 10 * n + (c.toNat - '0'.toNat) := by
    funext n c
    rw [Nat.mul_comm]
    rfl
  rw [Nat.ofDigitChars_eq_foldl] at h
  unfold natOfDigits
  rw [hstep]
  exact h

/-- The digits of a number do not begin with a zero, unless they are nothing else. -/
theorem head_toDigits (hn : 0 < n) : (Nat.toDigits 10 n).head? ≠ some '0' := by
  have hdigit : ∀ d < 10, 0 < d → some (Nat.digitChar d) ≠ some '0' := by decide
  induction n using Nat.strongRecOn with
  | ind n ih =>
    by_cases hsmall : n < 10
    · rw [Nat.toDigits_of_lt_base hsmall]
      exact hdigit n hsmall hn
    · have hhead := ih (n / 10) (by omega) (by omega)
      obtain ⟨c, ds, hds, -⟩ := exists_toDigits_eq_cons (n / 10)
      rw [Nat.toDigits_of_base_le (by decide) (Nat.le_of_not_lt hsmall), hds]
      rwa [hds] at hhead

/-- The digits of a number are read whole, where no digit follows. -/
theorem wholeDigits_toDigits (n : Nat) (hr : Delimited r) :
    wholeDigits (Nat.toDigits 10 n ++ r) = Nat.toDigits 10 n := by
  by_cases hzero : n = 0
  · subst hzero
    rfl
  · have hhead := head_toDigits (Nat.pos_of_ne_zero hzero)
    have hall := fun c (hc : c ∈ Nat.toDigits 10 n) => isAsciiDigit_of_mem_toDigits hc
    obtain ⟨c, ds, hds⟩ := List.exists_cons_of_ne_nil (Nat.toDigits_ne_nil (n := n) (b := 10))
    rw [hds] at hhead hall ⊢
    have hc : c ≠ '0' := fun heq => hhead (heq ▸ rfl)
    rw [List.cons_append, wholeDigits, if_neg hc, ← List.cons_append,
      List.takeWhile_append_of_pos hall, hr.takeWhile, List.append_nil]

/-- **A whole number is read back,** where its digits end. -/
theorem findsMagnitude_toDigits (negative : Bool) (n : Nat) (hr : Delimited r) :
    Finds (readMagnitude? negative) (Nat.toDigits 10 n ++ r)
      (.int (if negative then -(n : Int) else n)) r := by
  have h := findsMagnitude negative (wholeDigits_toDigits n hr) Nat.toDigits_ne_nil
    hr.fractionDigits hr.exponentPart
  rwa [natOfDigits_toDigits] at h

theorem ne_of_isAsciiDigit {d : Char} (hc : isAsciiDigit c = true) (hd : isAsciiDigit d = false) :
    d ≠ c := by
  intro heq
  rw [heq, hc] at hd
  cases hd

/-- What begins with a digit, or with a sign and a digit, is no literal. -/
theorem readLiteral?_of_digit (hc : isAsciiDigit c = true) (t : List Char) :
    readLiteral? (c :: t) = none ∧ readLiteral? ('-' :: c :: t) = none := by
  have hn : 'n' ≠ c := ne_of_isAsciiDigit hc rfl
  have ht : 't' ≠ c := ne_of_isAsciiDigit hc rfl
  have hf : 'f' ≠ c := ne_of_isAsciiDigit hc rfl
  have hN : 'N' ≠ c := ne_of_isAsciiDigit hc rfl
  have hI : 'I' ≠ c := ne_of_isAsciiDigit hc rfl
  have hminus : '-' ≠ c := ne_of_isAsciiDigit hc rfl
  simp [readLiteral?, literals, after?, hn, ht, hf, hN, hI, hminus]

theorem isOpening_of_digit (hc : isAsciiDigit c = true) : isOpening c = false := by
  have hquote : c ≠ '\x22' := (ne_of_isAsciiDigit hc rfl).symm
  have hbracket : c ≠ '[' := (ne_of_isAsciiDigit hc rfl).symm
  have hbrace : c ≠ '\x7b' := (ne_of_isAsciiDigit hc rfl).symm
  simp [isOpening, hquote, hbracket, hbrace]

theorem not_jsonBlank_of_digit (hc : isAsciiDigit c = true) : isJsonBlank c = false := by
  have hspace : c ≠ ' ' := (ne_of_isAsciiDigit hc rfl).symm
  have htab : c ≠ '\t' := (ne_of_isAsciiDigit hc rfl).symm
  have hfeed : c ≠ '\n' := (ne_of_isAsciiDigit hc rfl).symm
  have hreturn : c ≠ '\r' := (ne_of_isAsciiDigit hc rfl).symm
  simp [isJsonBlank, hspace, htab, hfeed, hreturn]

/-- **An integer is read back,** with its sign. -/
theorem readsValue_integerText (m : Int) (hr : Delimited r) :
    Reads readValue ((integerText m).toList ++ r) (.int m) r := by
  obtain ⟨c, ds, hds, hc⟩ := exists_toDigits_eq_cons m.natAbs
  have hliteral := readLiteral?_of_digit hc (ds ++ r)
  unfold integerText
  rw [String.toList_ofList]
  -- a sign is read first, and the digits behind it as for a number without one
  by_cases hneg : m < 0
  · have hread := findsNumber_negative (findsMagnitude_toDigits true m.natAbs hr)
    have hm : (if true = true then -(m.natAbs : Int) else m.natAbs) = m := by
      rw [if_pos rfl]
      omega
    rw [if_pos hneg, List.cons_append]
    rw [hm] at hread
    rw [hds, List.cons_append] at hread ⊢
    exact readsValue_number (by decide) hliteral.2 hread
  · have hread := findsMagnitude_toDigits false m.natAbs hr
    have hm : (if false = true then -(m.natAbs : Int) else m.natAbs) = m := by
      rw [if_neg Bool.false_ne_true]
      omega
    have hsign : c ≠ '-' := (ne_of_isAsciiDigit hc rfl).symm
    rw [if_neg hneg]
    rw [hm] at hread
    rw [hds, List.cons_append] at hread ⊢
    exact readsValue_number (isOpening_of_digit hc) hliteral.1 (findsNumber_positive hsign hread)

/-! ## Literals -/

theorem after?_append (word r : List Char) : after? word (word ++ r) = some r := by
  induction word with
  | nil => rfl
  | cons c word ih => rw [List.cons_append, after?, if_pos rfl, ih]

/-- **A word is read** where none of the words before it in the list begins the text. -/
theorem findsLiteral {before rest : List (List Char × Value)} {word : List Char}
    (hsplit : literals = before ++ (word, v) :: rest) (hne : word ≠ [])
    (hbefore : ∀ p ∈ before, after? p.1 (word ++ r) = none) :
    Finds readLiteral? (word ++ r) v r := by
  have hpos := List.length_pos_iff.2 hne
  have hlt : r.length < (word ++ r).length := by
    rw [List.length_append]
    omega
  refine ⟨hlt, ?_⟩
  unfold readLiteral?
  rw [hsplit, List.findSome?_append, List.findSome?_eq_none_iff.2, Option.none_or,
    List.findSome?_cons]
  · dsimp only
    rw [after?_append]
    dsimp only
    rw [dif_pos hlt]
  · intro p hp
    dsimp only
    rw [hbefore p hp]

theorem readsValue_null (r : List Char) : Reads readValue ("null".toList ++ r) .null r := by
  have hsplit : literals = [] ++ ("null".toList, .null) :: _ := rfl
  refine readsValue_literal (by decide) (findsLiteral hsplit (by decide) ?_)
  intro p hp
  cases hp

theorem readsValue_true (r : List Char) : Reads readValue ("true".toList ++ r) (.bool true) r := by
  have hsplit : literals = [("null".toList, .null)] ++ ("true".toList, .bool true) :: _ := rfl
  refine readsValue_literal (by decide) (findsLiteral hsplit (by decide) ?_)
  intro p hp
  rw [List.mem_singleton.1 hp]
  rfl

theorem readsValue_false (r : List Char) :
    Reads readValue ("false".toList ++ r) (.bool false) r := by
  have hsplit : literals = [("null".toList, .null), ("true".toList, .bool true)] ++
      ("false".toList, .bool false) :: _ := rfl
  refine readsValue_literal (by decide) (findsLiteral hsplit (by decide) ?_)
  intro p hp
  simp only [List.mem_cons, List.not_mem_nil, or_false] at hp
  rcases hp with rfl | rfl
  · rfl
  · rfl

end SourceCensus.Json
