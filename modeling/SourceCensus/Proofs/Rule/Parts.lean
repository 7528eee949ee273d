import SourceCensus.Proofs.Rule.Reading

/-! # Reading types and names

    A type is a path, type arguments and a suffix, and each of these ends where a character stands
    that would not carry it on (`typeName?_append`). The suffix is the one part that can be cut in
    two ways, since a lone question mark may be the first of the two or the second; its text is the
    same (`takes_typeSuffix`).
-/

namespace SourceCensus.Rule

open Text Vocabulary
open scoped Computability

variable {p : Char → Bool} {t x y after : Text}

/-! ## Paths -/

theorem reads_pointAndIdentifier? :
    Reads pointAndIdentifier? members (NoneAhead isWord) where
  sound {t x} h := by
    unfold pointAndIdentifier? at h
    split at h
    · obtain ⟨word, hword, rfl⟩ := Option.map_eq_some_iff.1 h
      obtain ⟨hmem, hfront⟩ := reads_identifier?.sound hword
      exact ⟨cons_mem_mul '.' hmem, (List.prefix_cons_inj '.').2 hfront⟩
    · cases h
  whole := by
    rintro _ after ⟨_, rfl, x, hx, rfl⟩ hafter
    show (identifier? (x ++ after)).map ('.' :: ·) = _
    rw [reads_identifier?.whole hx hafter]
    rfl

/-- A point ends an identifier, so a path goes on as long as points and identifiers do. -/
theorem takes_members :
    Takes (repeated pointAndIdentifier?) members∗ (NoneAhead fun c => isWord c || c = '.') := by
  refine (takes_repeated_of_cons reads_pointAndIdentifier? ?_).mono ?_
  · intro u
    exact noneAhead_cons.2 (by decide)
  · intro t ht
    exact ⟨ht.mono (by simp +contextual), ht.mono (by simp)⟩

/-! ## Type arguments -/

theorem reads_innerArguments? :
    Reads innerArguments? innerArguments (NoneAhead isArgumentChar) where
  sound {t x} h := by
    unfold innerArguments? at h
    split at h
    · rename_i rest
      dsimp only at h
      split at h
      · rename_i more hmore
        cases h
        obtain ⟨hbody, hfront⟩ := (takes_takeWhile isArgumentChar).sound rest
        obtain ⟨htail, htailFront⟩ := (takes_takeWhile isArgumentChar).sound more
        exact ⟨cons_mem_mul '<' (Language.append_mem_mul hbody (cons_mem_mul '>' htail)),
          enclosed_front hfront hmore htailFront⟩
      · cases h
    · cases h
  whole := by
    rintro _ after ⟨_, rfl, _, ⟨a, ha, _, ⟨_, rfl, b, hb, rfl⟩, rfl⟩, rfl⟩ hafter
    -- the body ends at the closing bracket, and the tail where the text behind begins
    have hbody : (a ++ '>' :: (b ++ after)).takeWhile isArgumentChar = a :=
      takeWhile_append_of_noneAhead ha (noneAhead_cons.2 (by decide))
    have htail := takeWhile_append_of_noneAhead hb hafter
    simp [innerArguments?, hbody, htail]

theorem takes_innerArguments :
    Takes (repeated innerArguments?) innerArguments∗
      (NoneAhead fun c => isArgumentChar c || c = '<') := by
  refine (takes_repeated_of_cons reads_innerArguments? ?_).mono ?_
  · intro u
    exact noneAhead_cons.2 (by decide)
  · intro t ht
    exact ⟨ht.mono (by simp +contextual), ht.mono (by simp)⟩

theorem reads_typeArguments? :
    Reads typeArguments? (perhaps typeArguments) (NoneAhead (· = '<')) where
  sound {t x} h := by
    unfold typeArguments? at h
    split at h
    · -- behind the bracket a run of characters and the inner arguments are taken in turn
      rename_i rest
      dsimp only at h
      split at h
      · rename_i more hmore
        cases h
        obtain ⟨hfirst, hfirstFront⟩ := (takes_takeWhile isArgumentChar).sound rest
        obtain ⟨hinner, hinnerFront⟩ := takes_innerArguments.sound
          (rest.drop (rest.takeWhile isArgumentChar).length)
        refine ⟨mem_perhaps (cons_mem_mul '<' ?_),
          enclosed_front (append_front hfirstFront hinnerFront) hmore List.nil_prefix⟩
        rw [List.append_assoc]
        exact Language.append_mem_mul hfirst (Language.append_mem_mul hinner rfl)
      · cases h
    · cases h
      exact ⟨nil_mem_perhaps _, List.nil_prefix⟩
  whole := by
    rintro x after (rfl | ⟨_, rfl, _, ⟨a, ha, _, ⟨b, hb, _, rfl, rfl⟩, rfl⟩, rfl⟩) hafter
    · -- without an angle bracket there are no arguments
      unfold typeArguments?
      split
      · rename_i h
        rw [List.nil_append] at h
        rw [h] at hafter
        cases noneAhead_cons.1 hafter
      · rfl
    · -- the first run of characters ends at a bracket, which opens or closes
      have hahead : NoneAhead isArgumentChar (b ++ '>' :: after) :=
        (noneAhead_kstar_cons (by decide) hb).append (noneAhead_cons.2 (by decide))
      have hfirst := takeWhile_append_of_noneAhead ha hahead
      have hinner : repeated innerArguments? (b ++ '>' :: after) = b :=
        takes_innerArguments.whole hb (noneAhead_cons.2 (by decide))
      simp [typeArguments?, hfirst, hinner]

/-! ## What follows the arguments -/

theorem takes_questionMark : Takes questionMark (perhaps {['?']}) (NoneAhead (· = '?')) where
  sound t := by
    unfold questionMark
    split
    · exact ⟨mem_perhaps rfl, (List.prefix_cons_inj '?').2 List.nil_prefix⟩
    · exact ⟨nil_mem_perhaps _, List.nil_prefix⟩
  whole := by
    rintro x after (rfl | rfl) hafter
    · unfold questionMark
      split
      · rename_i h
        rw [List.nil_append] at h
        rw [h] at hafter
        cases noneAhead_cons.1 hafter
      · rfl
    · rfl

theorem reads_arrayBrackets? : Reads arrayBrackets? arrayBrackets fun _ => True where
  sound {t x} h := by
    unfold arrayBrackets? at h
    split at h
    · rename_i rest
      dsimp only at h
      split at h
      · rename_i more hmore
        cases h
        obtain ⟨hbody, hfront⟩ := (takes_takeWhile fun c => isGap c || c = ',').sound rest
        exact ⟨cons_mem_mul '[' (Language.append_mem_mul hbody rfl),
          enclosed_front hfront hmore List.nil_prefix⟩
      · cases h
    · cases h
  whole := by
    rintro _ after ⟨_, rfl, _, ⟨a, ha, _, rfl, rfl⟩, rfl⟩ -
    have hbody : (a ++ ']' :: after).takeWhile (fun c => isGap c || c = ',') = a :=
      takeWhile_append_of_noneAhead ha (noneAhead_cons.2 (by decide))
    simp [arrayBrackets?, hbody]

theorem takes_arrayBrackets :
    Takes (repeated arrayBrackets?) arrayBrackets∗ (NoneAhead (· = '[')) :=
  (takes_repeated_of_cons reads_arrayBrackets? fun _ => trivial).mono fun _ ht => ⟨trivial, ht⟩

theorem noneAhead_questionMark (hp : p '?' = false) (hx : x ∈ perhaps {['?']}) : NoneAhead p x := by
  rcases hx with rfl | rfl
  · exact noneAhead_nil
  · exact noneAhead_cons.2 hp

/-- The parts of a suffix, where the first two are known to end. -/
theorem typeSuffix_append (hx : questionMark (x ++ (y ++ t)) = x)
    (hy : repeated arrayBrackets? (y ++ t) = y) :
    typeSuffix (x ++ (y ++ t)) = x ++ (y ++ questionMark t) := by
  simp only [typeSuffix, hx, List.drop_left, hy, ← List.length_append, drop_append_append,
    List.append_assoc]

/-- **Suffixes.** A single question mark is read as the first of the two, and it may just as well be
    the second: the text is the same. -/
theorem takes_typeSuffix :
    Takes typeSuffix typeSuffixes (NoneAhead fun c => c = '?' || c = '[') where
  sound t := by
    -- the parts are taken off the front in turn
    simp only [typeSuffix, List.append_assoc]
    obtain ⟨hfirst, hfirstFront⟩ := takes_questionMark.sound t
    obtain ⟨harrays, harraysFront⟩ := takes_arrayBrackets.sound (t.drop (questionMark t).length)
    refine ⟨Language.append_mem_mul hfirst (Language.append_mem_mul harrays
      (takes_questionMark.sound _).1), ?_⟩
    rw [← List.append_assoc, ← List.length_append]
    exact append_front (append_front hfirstFront harraysFront) (takes_questionMark.sound _).2
  whole := by
    rintro _ after ⟨a, ha, _, ⟨b, hb, c, hc, rfl⟩, rfl⟩ hafter
    have hmark : NoneAhead (· = '?') after := hafter.mono (by simp +contextual)
    have hbracket : NoneAhead (· = '[') after := hafter.mono (by simp)
    have hlast := takes_questionMark.whole hc hmark
    have harrays : repeated arrayBrackets? (b ++ (c ++ after)) = b :=
      takes_arrayBrackets.whole hb ((noneAhead_questionMark (by decide) hc).append hbracket)
    have hnone : NoneAhead (· = '?') b := noneAhead_kstar_cons (by decide) hb
    simp only [List.append_assoc]
    rcases ha with rfl | rfl
    · -- the first mark is missing in the split, but the reader may yet find one there
      by_cases hfirst : NoneAhead (· = '?') (b ++ (c ++ after))
      · rw [typeSuffix_append (takes_questionMark.whole (nil_mem_perhaps _) hfirst) harrays, hlast]
      · -- the only question mark is not behind brackets, and is taken as the first
        have hempty : b = [] := by
          by_contra hne
          exact hfirst (noneAhead_append_of_ne_nil hne hnone _)
        subst hempty
        rcases hc with rfl | rfl
        · exact absurd hmark hfirst
        · have hskip := takes_arrayBrackets.whole (Language.nil_mem_kstar _) hbracket
          have hend := takes_questionMark.whole (nil_mem_perhaps _) hmark
          rw [List.nil_append] at hskip hend
          have := typeSuffix_append (x := ['?']) (y := []) rfl hskip
          rwa [List.nil_append, hend] at this
    · rw [typeSuffix_append rfl harrays, hlast]

/-! ## Types and names -/

theorem isWord_of_mem_reservedWords : ∀ w ∈ reservedWords, ∀ c ∈ w, isWord c = true :=
  isWord_of_all (by decide +kernel)

theorem isWord_of_mem_builtinWords : ∀ w ∈ builtinWords, ∀ c ∈ w, isWord c = true :=
  isWord_of_all (by decide +kernel)

/-- A character that would carry a type on. -/
def carriesType (c : Char) : Bool := isWord c || ['.', '<', '?', '['].contains c

theorem not_carriesType_of_isGap {c : Char} (h : isGap c = true) : carriesType c = false := by
  simp only [isGap, Bool.or_eq_true, decide_eq_true_eq] at h
  rcases h with rfl | rfl <;> decide

theorem noneAhead_typeSuffixes (hmark : p '?' = false) (hbracket : p '[' = false)
    (hx : x ∈ typeSuffixes) : NoneAhead p x := by
  obtain ⟨a, ha, _, ⟨b, hb, c, hc, rfl⟩, rfl⟩ := hx
  exact (noneAhead_questionMark hmark ha).append
    ((noneAhead_kstar_cons hbracket hb).append (noneAhead_questionMark hmark hc))

theorem noneAhead_typeArguments (hp : p '<' = false) (hx : x ∈ perhaps typeArguments) :
    NoneAhead p x := by
  rcases hx with rfl | ⟨_, rfl, y, -, rfl⟩
  · exact noneAhead_nil
  · exact noneAhead_cons.2 hp

theorem typeName?_sound (h : typeName? t = some x) :
    x ∈ typeNames ∧ x <+: t ∧ ¬ Bars reservedWords t := by
  simp only [typeName?] at h
  split at h
  · cases h
  · rename_i word hword
    split at h
    · cases h
    · rename_i hfree
      split at h
      · cases h
      · rename_i arguments harguments
        cases h
        -- the word, its members, its arguments and its suffixes are taken off the front in turn
        obtain ⟨hmem, hfront⟩ := reads_identifier?.sound hword
        obtain ⟨hpath, hpathFront⟩ := takes_members.sound (t.drop word.length)
        obtain ⟨hargs, hargsFront⟩ := reads_typeArguments?.sound harguments
        obtain ⟨hsuffix, hsuffixFront⟩ := takes_typeSuffix.sound
          (t.drop ((word ++ repeated pointAndIdentifier? (t.drop word.length)) ++
            arguments).length)
        rw [← List.length_append]
        refine ⟨?_, append_front (append_front (append_front hfront hpathFront) hargsFront)
          hsuffixFront, ?_⟩
        · rw [List.append_assoc, List.append_assoc]
          exact Language.append_mem_mul hmem (Language.append_mem_mul hpath
            (Language.append_mem_mul hargs hsuffix))
        · rw [bars_iff isWord_of_mem_reservedWords, takeWhile_of_identifier? hword]
          simpa using hfree

/-- Behind the path of a type stands a bracket, a question mark, or what follows the type. -/
theorem noneAhead_typeTail (hangle : p '<' = false) (hmark : p '?' = false)
    (hbracket : p '[' = false) (hx : x ∈ perhaps typeArguments) (hy : y ∈ typeSuffixes)
    (ht : NoneAhead p t) : NoneAhead p (x ++ (y ++ t)) :=
  (noneAhead_typeArguments hangle hx).append
    ((noneAhead_typeSuffixes hmark hbracket hy).append ht)

/-- **Types** are read whole where no character follows that would carry them on. -/
theorem typeName?_append (hx : x ∈ typeNames) (hfree : ¬ Bars reservedWords (x ++ after))
    (hafter : NoneAhead carriesType after) : typeName? (x ++ after) = some x := by
  obtain ⟨w, hw, _, ⟨m, hm, _, ⟨a, ha, s, hs, rfl⟩, rfl⟩, rfl⟩ := hx
  simp only [List.append_assoc] at hfree ⊢
  have hpathEnd : NoneAhead (fun c => isWord c || c = '.') after :=
    hafter.mono (by simp only [carriesType, Bool.or_eq_true]; grind)
  have hwordEnd : NoneAhead isWord after := hpathEnd.mono (by simp +contextual)
  -- nothing that may follow a part lets the part go on
  have hsuffix : typeSuffix (s ++ after) = s :=
    takes_typeSuffix.whole hs (hafter.mono (by simp +contextual [carriesType]))
  have harguments : typeArguments? (a ++ (s ++ after)) = some a :=
    reads_typeArguments?.whole ha ((noneAhead_typeSuffixes (by decide) (by decide) hs).append
      (hafter.mono (by simp +contextual [carriesType])))
  have hmembers : repeated pointAndIdentifier? (m ++ (a ++ (s ++ after))) = m :=
    takes_members.whole hm
      (noneAhead_typeTail (by decide) (by decide) (by decide) ha hs hpathEnd)
  have hword : identifier? (w ++ (m ++ (a ++ (s ++ after)))) = some w :=
    reads_identifier?.whole hw ((noneAhead_kstar_cons (by decide) hm).append
      (noneAhead_typeTail (by decide) (by decide) (by decide) ha hs hwordEnd))
  rw [bars_iff isWord_of_mem_reservedWords, takeWhile_of_identifier? hword] at hfree
  simp only [typeName?, hword, List.drop_left, hmembers, ← List.length_append, List.append_assoc,
    drop_append_append, harguments, hsuffix]
  rw [if_neg (by simpa using hfree)]

theorem declaredName?_eq_some_iff : declaredName? t = some x ↔
    identifier? t = some x ∧ ¬ Bars (reservedWords ++ builtinWords) t := by
  have hwords : ∀ w ∈ reservedWords ++ builtinWords, ∀ c ∈ w, isWord c = true := by
    intro w hw
    rcases List.mem_append.1 hw with hw | hw
    · exact isWord_of_mem_reservedWords w hw
    · exact isWord_of_mem_builtinWords w hw
  rw [bars_iff hwords, declaredName?]
  cases hword : identifier? t with
  | none => simp
  | some word =>
    rw [takeWhile_of_identifier? hword]
    by_cases hfree : word ∈ reservedWords ++ builtinWords
    · simp_all
    · simp_all

end SourceCensus.Rule
