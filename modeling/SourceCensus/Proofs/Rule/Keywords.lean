import SourceCensus.Proofs.Classification.Kinds
import SourceCensus.Proofs.Mask.Report
import SourceCensus.Proofs.Rule.Words

/-! # Keywords and words

    The keyword rules look at boundaries next to a place. Here they are compared with the words of
    a text.

    A rule for whole words matches a word and nothing else, so its occurrences are the words that
    are equal to one of its keywords (`mem_occurrences_wholeWord_iff`). Where one keyword begins
    another one, the boundary behind it decides.

    The rule for branches takes `else`, white space and `if` together, and thereby hides the `if`
    from the search. Nothing else is hidden: what is taken together holds two words, and the first
    one is where it begins (`ElseIf.second_of_inside`). So the occurrences are the words `else`, and
    the words `if` that no `else` stands before (`mem_occurrences_branchWord_iff`).

    Main result: `keywords_are_words`.
-/

namespace SourceCensus.Rule

open Text

variable {t u rest gap word first second w : Text} {before : Option Char} {ws : List String}
  {e i n o : Nat}

/-! ## Boundaries -/

theorem startsWord_iff : startsWord u.getLast? = true ↔ NoneBehind isWord u := by
  rw [startsWord, noneBehind_iff_any, Bool.not_eq_true']

theorem endsWord_iff : endsWord t = true ↔ NoneAhead isWord t := by
  unfold endsWord NoneAhead
  cases t.head? <;> simp

theorem afterWord?_eq_some_iff : afterWord? word t = some rest ↔ t = word ++ rest := by
  unfold afterWord?
  constructor
  · intro h
    split at h
    · rename_i hpre
      have hsplit := List.prefix_iff_eq_append.1 (List.isPrefixOf_iff_prefix.1 hpre)
      rw [← Option.some.inj h, hsplit]
    · cases h
  · rintro rfl
    rw [if_pos (List.isPrefixOf_iff_prefix.2 (List.prefix_append _ _)), List.drop_left]

theorem endingWord_eq_some_iff : endingWord word before t = some n ↔
    ∃ rest, t = word ++ rest ∧ NoneAhead isWord rest ∧ n = word.length := by
  unfold endingWord
  constructor
  · intro h
    split at h
    · rename_i rest hafter
      split at h
      · rename_i hends
        exact ⟨rest, afterWord?_eq_some_iff.1 hafter, endsWord_iff.1 hends,
          (Option.some.inj h).symm⟩
      · cases h
    · cases h
  · intro h
    obtain ⟨rest, hsplit, hends, rfl⟩ := h
    rw [afterWord?_eq_some_iff.2 hsplit]
    exact if_pos (endsWord_iff.2 hends)

theorem matchAt_atWordStart {rs : List Recogniser} : (atWordStart rs).matchAt t o = some n ↔
    NoneBehind isWord (t.take o) ∧
      Recogniser.firstOf rs (t.take o).getLast? (t.drop o) = some n := by
  rw [Recogniser.matchAt, atWordStart, Option.ite_none_right_eq_some, startsWord_iff]

/-! ## Whole words -/

/-- The text is made of word characters. -/
def IsSpelling (w : Text) : Prop := w ≠ [] ∧ ∀ c ∈ w, isWord c = true

/-- A word that ends where it is matched is a word of the text. -/
theorem isRunAt_of_endingWord (hw : IsSpelling w) (hstart : NoneBehind isWord (t.take o))
    (h : endingWord w before (t.drop o) = some n) : IsRunAt isWord t o w ∧ n = w.length := by
  obtain ⟨rest, hsplit, hends, rfl⟩ := endingWord_eq_some_iff.1 h
  exact ⟨isRunAt_iff.2 ⟨hstart, ⟨rest, hsplit, hends⟩, hw⟩, rfl⟩

/-- A word of the text is matched if it is one of the alternatives. -/
theorem isSome_atWordStart {rs : List Recogniser} (hr : endingWord w ∈ rs)
    (hword : IsRunAt isWord t o w) : ((atWordStart rs).matchAt t o).isSome := by
  obtain ⟨hstart, ⟨rest, hsplit, hends⟩, -⟩ := isRunAt_iff.1 hword
  have hfound : (Recogniser.firstOf rs (t.take o).getLast? (t.drop o)).isSome := by
    rw [Recogniser.firstOf, List.findSome?_isSome_iff]
    refine ⟨endingWord w, hr, ?_⟩
    rw [endingWord_eq_some_iff.2 ⟨rest, hsplit, hends, rfl⟩]
    rfl
  obtain ⟨n, hn⟩ := Option.isSome_iff_exists.1 hfound
  rw [matchAt_atWordStart.2 ⟨hstart, hn⟩]
  rfl

/-- **A rule for whole words** matches a word that is one of its keywords, and all of it. -/
theorem wholeWord_cases (hws : ∀ w ∈ ws, IsSpelling w.toList)
    (h : (wholeWord ws).matchAt t o = some n) :
    ∃ w ∈ ws.map String.toList, IsRunAt isWord t o w ∧ n = w.length := by
  obtain ⟨hstart, hfirst⟩ := matchAt_atWordStart.1 h
  obtain ⟨r, hr, hmatch⟩ := List.exists_of_findSome?_eq_some hfirst
  obtain ⟨w, hw, rfl⟩ := List.mem_map.1 hr
  exact ⟨w.toList, List.mem_map_of_mem hw, isRunAt_of_endingWord (hws w hw) hstart hmatch⟩

/-- **Keywords are found as words:** where a word stands that is one of them, and nowhere else. -/
theorem mem_occurrences_wholeWord_iff (hws : ∀ w ∈ ws, IsSpelling w.toList) :
    o ∈ (wholeWord ws).occurrences t ↔
      ∃ w, IsRunAt isWord t o w ∧ w ∈ ws.map String.toList := by
  have hinside : ∀ o n, (wholeWord ws).matchAt t o = some n →
      ∃ w, IsRunAt isWord t o w ∧ n ≤ w.length := by
    intro o n h
    obtain ⟨w, -, hword, hn⟩ := wholeWord_cases hws h
    exact ⟨w, hword, Nat.le_of_eq hn⟩
  rw [mem_occurrences_iff_of_inside hinside]
  constructor
  · intro h
    obtain ⟨n, hn⟩ := Option.isSome_iff_exists.1 h
    obtain ⟨w, hw, hword, -⟩ := wholeWord_cases hws hn
    exact ⟨w, hword, hw⟩
  · intro h
    obtain ⟨x, hword, hx⟩ := h
    obtain ⟨w, hw, rfl⟩ := List.mem_map.1 hx
    exact isSome_atWordStart (List.mem_map_of_mem hw) hword

/-! ## Two words taken together -/

/-- The word that begins the other branch of a condition. -/
def elseWord : Text := "else".toList

/-- The word that begins a condition. -/
def ifWord : Text := "if".toList

theorem isSpelling_elseWord : IsSpelling elseWord := by
  have hall : elseWord.all isWord = true := by decide
  exact ⟨by decide, List.all_eq_true.1 hall⟩

theorem isSpelling_ifWord : IsSpelling ifWord := by
  have hall : ifWord.all isWord = true := by decide
  exact ⟨by decide, List.all_eq_true.1 hall⟩

theorem IsSpelling.noneAhead_isBlank (hw : IsSpelling w) (rest : Text) :
    NoneAhead isBlank (w ++ rest) := by
  obtain ⟨c, x, rfl⟩ := List.exists_cons_of_ne_nil hw.1
  rw [List.cons_append, noneAhead_cons, ← Bool.not_eq_true]
  intro hblank
  have hword := hw.2 c List.mem_cons_self
  rw [not_isWord_of_isBlank hblank] at hword
  cases hword

/-- **Two words together:** there is white space between them, and the second one ends. -/
theorem wordPair_eq_some_iff (hsecond : IsSpelling second) :
    wordPair first second before t = some n ↔
      ∃ gap rest, t = first ++ (gap ++ (second ++ rest)) ∧ gap ≠ [] ∧
        (∀ c ∈ gap, isBlank c = true) ∧ NoneAhead isWord rest ∧
        n = first.length + gap.length + second.length := by
  unfold wordPair
  constructor
  · intro h
    split at h
    · rename_i behind hafter
      -- the first word, the white space behind it, and the second word are taken off in turn
      obtain rfl := afterWord?_eq_some_iff.1 hafter
      simp only at h
      split at h
      · cases h
      · rename_i hgap
        obtain ⟨m, hm, rfl⟩ := Option.map_eq_some_iff.1 h
        obtain ⟨rest, hsplit, hends, rfl⟩ := endingWord_eq_some_iff.1 hm
        refine ⟨behind.takeWhile isBlank, rest, ?_, ?_, ?_, hends, rfl⟩
        · rw [← hsplit, takeWhile_append_drop]
        · simpa using hgap
        · intro c hc
          exact List.mem_takeWhile_imp hc
    · cases h
  · intro h
    obtain ⟨gap, rest, hsplit, hne, hblank, hends, rfl⟩ := h
    -- the second word has no blank at its front, so the white space is all of the gap
    have hgap : (gap ++ (second ++ rest)).takeWhile isBlank = gap :=
      takeWhile_append_of_noneAhead hblank (hsecond.noneAhead_isBlank rest)
    have hempty : ¬ gap.isEmpty = true := by simpa using hne
    rw [afterWord?_eq_some_iff.2 hsplit]
    simp only [hgap, List.drop_left]
    rw [if_neg hempty, endingWord_eq_some_iff.2 ⟨rest, rfl, hends, rfl⟩]
    rfl

/-- An `else` at one place and an `if` at another one, with nothing but white space between. -/
structure ElseIf (t : Text) (e i : Nat) : Prop where
  first : IsRunAt isWord t e elseWord
  second : IsRunAt isWord t i ifWord
  lt : e + elseWord.length < i
  blank : (t.slice (e + elseWord.length) i).all isBlank = true

theorem elseIf_append (hstart : NoneBehind isWord u) (hne : gap ≠ [])
    (hblank : ∀ c ∈ gap, isBlank c = true) (hends : NoneAhead isWord rest) :
    ElseIf (u ++ (elseWord ++ (gap ++ (ifWord ++ rest)))) u.length
      (u.length + elseWord.length + gap.length) := by
  have hfree : ∀ c ∈ gap, isWord c = false := fun c hc => not_isWord_of_isBlank (hblank c hc)
  have hlength : (u ++ elseWord).length = u.length + elseWord.length := List.length_append
  -- the gap ends the first word and comes before the second one
  have hahead : NoneAhead isWord (gap ++ (ifWord ++ rest)) := by
    intro c hc
    rw [List.head?_append_of_ne_nil _ hne] at hc
    exact hfree c (List.mem_of_mem_head? hc)
  have hbehind : NoneBehind isWord (u ++ elseWord ++ gap) := by
    rw [noneBehind_append_iff hne]
    intro c hc
    exact hfree c (List.mem_of_getLast? hc)
  refine ⟨?_, ?_, ?_, ?_⟩
  · exact ⟨⟨u, _, rfl, rfl, hstart, hahead⟩, isSpelling_elseWord.1, isSpelling_elseWord.2⟩
  · refine ⟨⟨u ++ elseWord ++ gap, rest, ?_, ?_, hbehind, hends⟩, isSpelling_ifWord.1,
      isSpelling_ifWord.2⟩
    · simp only [List.append_assoc]
    · rw [List.length_append, hlength]
  · have := List.length_pos_iff.2 hne
    omega
  · have hslice := slice_append (u ++ elseWord) gap (ifWord ++ rest)
    rw [List.append_assoc, hlength] at hslice
    rw [hslice]
    exact List.all_eq_true.2 hblank

/-- **What is taken together** is an `else` and an `if` with white space between them. -/
theorem elseIf_of_wordPair (hstart : NoneBehind isWord (t.take o))
    (h : wordPair elseWord ifWord before (t.drop o) = some n) :
    ∃ i, ElseIf t o i ∧ o + n = i + ifWord.length := by
  obtain ⟨gap, rest, hsplit, hne, hblank, hends, rfl⟩ :=
    (wordPair_eq_some_iff isSpelling_ifWord).1 h
  have hpair := elseIf_append hstart hne hblank hends
  have htake : (t.take o).length = o := by
    have hlength := congrArg List.length hsplit
    have hpos := List.length_pos_iff.2 hne
    simp only [List.length_drop, List.length_append] at hlength
    rw [List.length_take]
    omega
  rw [← hsplit, List.take_append_drop, htake] at hpair
  exact ⟨_, hpair, by omega⟩

theorem ElseIf.wordPair_eq (h : ElseIf t e i) (before : Option Char) :
    ∃ n, wordPair elseWord ifWord before (t.drop e) = some n ∧ e + n = i + ifWord.length := by
  obtain ⟨-, ⟨v, hfirst, -⟩, -⟩ := isRunAt_iff.1 h.first
  obtain ⟨-, ⟨rest, hsecond, hends⟩, -⟩ := isRunAt_iff.1 h.second
  have hlt := h.lt
  have hinside := h.second.lt_length
  have hlength : (t.slice (e + elseWord.length) i).length = i - (e + elseWord.length) := by
    rw [slice, List.length_take, List.length_drop]
    omega
  have hgap : v = t.slice (e + elseWord.length) i ++ (ifWord ++ rest) := by
    rw [← hsecond, ← drop_eq_slice_append (Nat.le_of_lt hlt), ← List.drop_drop, hfirst,
      List.drop_left]
  refine ⟨_, (wordPair_eq_some_iff isSpelling_ifWord).2
    ⟨t.slice (e + elseWord.length) i, rest, ?_, ?_, ?_, hends, rfl⟩, ?_⟩
  · rw [hfirst, hgap]
  · apply List.ne_nil_of_length_pos
    omega
  · exact List.all_eq_true.1 h.blank
  · omega

/-- **Nothing else is hidden.** A word that stands inside of what is taken together, and does not
    begin it, is its second word. -/
theorem ElseIf.second_of_inside (h : ElseIf t e i) (hw : IsRunAt isWord t o w) (hlt : e < o)
    (hin : o < i + ifWord.length) : o = i ∧ w = ifWord := by
  have hbehind := h.first.apart hw hlt
  by_cases hbefore : o < i
  · -- white space is no part of a word
    obtain ⟨c, x, rfl⟩ := List.exists_cons_of_ne_nil hw.ne_nil
    obtain ⟨-, ⟨v, hdrop, -⟩, -⟩ := isRunAt_iff.1 hw
    have hplace : t[o]? = some c := by
      rw [← Nat.add_zero o, ← List.getElem?_drop, hdrop]
      rfl
    have hmem := mem_slice_of_getElem? (Nat.le_of_lt hbehind) hbefore hplace
    have hblank := List.all_eq_true.1 h.blank c hmem
    have hword := hw.all_kind c List.mem_cons_self
    rw [not_isWord_of_isBlank hblank] at hword
    cases hword
  · by_cases hafter : i < o
    · have := h.second.apart hw hafter
      omega
    · obtain rfl : o = i := by omega
      exact ⟨rfl, hw.unique h.second⟩

/-! ## The rule for branches -/

/-- An `else` stands before the place, with nothing but white space between. -/
def FollowsElse (t : Text) (o : Nat) : Prop :=
  ∃ e ∈ words t, e.2 = elseWord ∧ e.1 + e.2.length < o ∧
    (t.slice (e.1 + e.2.length) o).all isBlank = true

/-- The word begins a branch: an `else`, or an `if` that does not follow an `else`. -/
def Branches (t : Text) (w : Nat × Text) : Prop :=
  w.2 = elseWord ∨ w.2 = ifWord ∧ ¬ FollowsElse t w.1

instance (t : Text) (o : Nat) : Decidable (FollowsElse t o) :=
  inferInstanceAs (Decidable (∃ e ∈ words t, e.2 = elseWord ∧ e.1 + e.2.length < o ∧
    (t.slice (e.1 + e.2.length) o).all isBlank = true))

instance (t : Text) : DecidablePred (Branches t) := fun w =>
  inferInstanceAs (Decidable (w.2 = elseWord ∨ w.2 = ifWord ∧ ¬ FollowsElse t w.1))

theorem followsElse_iff (hif : IsRunAt isWord t o ifWord) :
    FollowsElse t o ↔ ∃ e, ElseIf t e o := by
  constructor
  · intro h
    obtain ⟨⟨e, w⟩, hmem, rfl, hlt, hblank⟩ := h
    rw [words_eq_runs, mem_runs_iff] at hmem
    exact ⟨e, hmem, hif, hlt, hblank⟩
  · intro h
    obtain ⟨e, he⟩ := h
    refine ⟨(e, elseWord), ?_, rfl, he.lt, he.blank⟩
    rw [words_eq_runs]
    exact mem_runs_iff.2 he.first

/-- **The rule for branches** matches one of its words, or a pair of them. -/
theorem branchWord_cases (h : branchWord.matchAt t o = some n) :
    (∃ w, IsRunAt isWord t o w ∧ (w = elseWord ∨ w = ifWord) ∧ n = w.length) ∨
      ∃ i, ElseIf t o i ∧ o + n = i + ifWord.length := by
  obtain ⟨hstart, hfirst⟩ := matchAt_atWordStart.1 h
  obtain ⟨r, hr, hmatch⟩ := List.exists_of_findSome?_eq_some hfirst
  simp only [List.mem_cons, List.not_mem_nil, or_false] at hr
  rcases hr with rfl | rfl | rfl
  · exact .inr (elseIf_of_wordPair hstart hmatch)
  · obtain ⟨hword, hn⟩ := isRunAt_of_endingWord isSpelling_ifWord hstart hmatch
    exact .inl ⟨ifWord, hword, .inr rfl, hn⟩
  · obtain ⟨hword, hn⟩ := isRunAt_of_endingWord isSpelling_elseWord hstart hmatch
    exact .inl ⟨elseWord, hword, .inl rfl, hn⟩

/-- Where a pair stands, all of it is matched, since the pair is the first alternative. -/
theorem ElseIf.matchAt_eq (h : ElseIf t e i) :
    ∃ n, branchWord.matchAt t e = some n ∧ e + n = i + ifWord.length := by
  obtain ⟨n, hpair, hn⟩ := h.wordPair_eq (t.take e).getLast?
  refine ⟨n, matchAt_atWordStart.2 ⟨(isRunAt_iff.1 h.first).1, ?_⟩, hn⟩
  rw [elseWord, ifWord] at hpair
  rw [Recogniser.firstOf, List.findSome?_cons, hpair]

theorem isSome_branchWord (hword : IsRunAt isWord t o w) (hw : w = elseWord ∨ w = ifWord) :
    (branchWord.matchAt t o).isSome := by
  rcases hw with rfl | rfl
  · exact isSome_atWordStart (by simp [elseWord]) hword
  · exact isSome_atWordStart (by simp [ifWord]) hword

/-- A place inside of what is matched where another word stands holds the `if` of a pair. -/
theorem elseIf_of_covered (hmatch : branchWord.matchAt t e = some n) (hword : IsRunAt isWord t o w)
    (hlt : e < o) (hin : o < e + n) : ElseIf t e o ∧ w = ifWord := by
  rcases branchWord_cases hmatch with ⟨x, hx, -, rfl⟩ | ⟨i, hi, hn⟩
  · -- one word alone does not reach to the next one
    have := hx.apart hword hlt
    omega
  · obtain ⟨rfl, rfl⟩ := hi.second_of_inside hword hlt (by omega)
    exact ⟨hi, rfl⟩

/-- **An `else` is always found:** it is never the second word of a pair. -/
theorem elseWord_mem_occurrences (hword : IsRunAt isWord t o elseWord) :
    o ∈ branchWord.occurrences t := by
  have hsome := isSome_branchWord hword (.inl rfl)
  rcases Recogniser.mem_occurrences_or_covered hword.lt_length hsome with hmem |
    ⟨e, -, n, hmatch, hlt, hin⟩
  · exact hmem
  · have hdiff : elseWord ≠ ifWord := by decide
    exact absurd (elseIf_of_covered hmatch hword hlt hin).2 hdiff

/-- **Branches are found as words:** every `else`, and every `if` that does not follow one. -/
theorem mem_occurrences_branchWord_iff : o ∈ branchWord.occurrences t ↔
    ∃ w, IsRunAt isWord t o w ∧ Branches t (o, w) := by
  constructor
  · intro ho
    obtain ⟨n, hn⟩ := Option.isSome_iff_exists.1 (Recogniser.isSome_of_mem_occurrences ho)
    rcases branchWord_cases hn with ⟨w, hword, rfl | rfl, -⟩ | ⟨i, hi, -⟩
    · exact ⟨elseWord, hword, .inl rfl⟩
    · refine ⟨ifWord, hword, .inr ⟨rfl, ?_⟩⟩
      intro hfollows
      -- the `else` before it is found, and what is matched there reaches over this `if`
      obtain ⟨e, he⟩ := (followsElse_iff hword).1 hfollows
      obtain ⟨m, hmatch, hm⟩ := he.matchAt_eq
      have hlt := he.lt
      have hend := Recogniser.add_le_of_mem_occurrences (elseWord_mem_occurrences he.first) ho
        (by omega) hmatch
      have hpos := List.length_pos_iff.2 isSpelling_ifWord.1
      omega
    · exact ⟨elseWord, hi.first, .inl rfl⟩
  · intro h
    obtain ⟨w, hword, rfl | ⟨rfl, hfree⟩⟩ := h
    · exact elseWord_mem_occurrences hword
    · -- an `if` that a longer match covered would follow an `else`
      have hsome := isSome_branchWord hword (.inr rfl)
      rcases Recogniser.mem_occurrences_or_covered hword.lt_length hsome with hmem |
        ⟨e, -, n, hmatch, hlt, hin⟩
      · exact hmem
      · have hpair := (elseIf_of_covered hmatch hword hlt hin).1
        exact absurd ((followsElse_iff hword).2 ⟨e, hpair⟩) hfree

/-! ## All keyword rules -/

/-- The kinds of token that stand for keywords, each with its keywords. -/
def keywordRules : List (TokenKind × List String) :=
  [(.doWhile, ["do", "while"]),
   (.switchCase, ["switch", "case"]),
   (.forLoop, ["for", "foreach"]),
   (.classOrStruct, ["class", "struct"]),
   (.interfaceType, ["interface"]),
   (.tryCatchFinally, ["try", "catch", "finally"]),
   (.usingImport, ["using", "import"]),
   (.returnStatement, ["return"]),
   (.instantiation, ["new"])]

theorem isSpelling_of_mem_keywordRules : ∀ rule ∈ keywordRules, ∀ w ∈ rule.2,
    IsSpelling w.toList := by
  have hall : keywordRules.all (fun rule => rule.2.all fun w =>
      !w.toList.isEmpty && w.toList.all isWord) = true := by
    decide +kernel
  intro rule hrule w hw
  have h := List.all_eq_true.1 (List.all_eq_true.1 hall rule hrule) w hw
  simpa [IsSpelling] using h

theorem mem_all_of_mem_keywordRules : ∀ rule ∈ keywordRules,
    (⟨rule.1, wholeWord rule.2⟩ : Rule) ∈ Rule.all := by
  simp [keywordRules, Rule.all]

/-- **Keywords are counted as words, and a condition after `else` once.** The tokens of a keyword
    kind stand for the words of the text that are equal to one of its keywords. The tokens for
    branches stand for the words `else` and for those words `if` that do not follow an `else` with
    nothing but white space in between. Each word has one token, in the order of the text, on the
    line of its first character. -/
theorem keywords_are_words (t : Text) (removed : List Token) (lineCount : Option Int) :
    (∀ rule ∈ keywordRules, tokensOf rule.1 (classify t removed lineCount) =
      ((words t).filter fun w => w.2 ∈ rule.2.map String.toList).map
        fun w => tokenAt t rule.1 w.1) ∧
    tokensOf .ifElse (classify t removed lineCount) =
      ((words t).filter fun w => Branches t w).map fun w => tokenAt t .ifElse w.1 := by
  have hbranch : (⟨.ifElse, branchWord⟩ : Rule) ∈ Rule.all := by simp [Rule.all]
  rw [words_eq_runs]
  constructor
  · intro rule hrule
    have hspelled := isSpelling_of_mem_keywordRules rule hrule
    exact tokensOf_classify_of_runs (mem_all_of_mem_keywordRules rule hrule)
      fun o => mem_occurrences_wholeWord_iff hspelled
  · exact tokensOf_classify_of_runs hbranch fun o => mem_occurrences_branchWord_iff

/-- An `else` with its `if` on the next line, a keyword, an `if` by itself, and a word that only
    begins like a keyword. -/
def branchesAndNew : Text := "else \nif new if newer".toList

theorem keywords_are_words_branchesAndNew :
    (.instantiation, ["new"]) ∈ keywordRules ∧
    tokensOf .instantiation (classify branchesAndNew [] none) =
      [tokenAt branchesAndNew .instantiation 9] ∧
    tokensOf .ifElse (classify branchesAndNew [] none) =
      [tokenAt branchesAndNew .ifElse 0, tokenAt branchesAndNew .ifElse 13] := by
  obtain ⟨hkeywords, hbranches⟩ := keywords_are_words branchesAndNew [] none
  have hrule : (.instantiation, ["new"]) ∈ keywordRules := by decide
  refine ⟨hrule, ?_, ?_⟩
  · rw [hkeywords _ hrule]
    decide +kernel
  · rw [hbranches]
    decide +kernel

end SourceCensus.Rule
