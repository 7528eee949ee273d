import SourceCensus.Proofs.Rule.Declaration

/-! # One way to read a declaration

    At a place of a text at most one of the three rules for declarations matches, and what it
    matches can be cut into modifiers, type, name and terminator in one way only
    (`declaration_splits_once`).

    The argument rests on the readers. Two ways to cut a text are both found by them
    (`Form.read?_eq_some_iff`), so for one form they agree. Two forms share the parts up to the
    name, and what stands behind the name then tells them apart (`Typed.form_unique`).

    Where the parts stand in the text is said by its words: a type begins with a word that is not
    reserved, and a name is a word that is neither reserved nor a built-in type.
-/

namespace SourceCensus.Rule

open Text Vocabulary
open scoped Computability

variable {s t x w v after after' rest : Text} {ws : List Text} {k k' : Form} {d d' : Declaration}
  {n i : Nat}

/-! ## Forms exclude each other -/

theorem Head.with_terminator (h : Head d rest) (stop : Text) :
    Head { d with terminator := stop } rest :=
  ⟨h.modifiers, h.typeName, h.typeName_free, h.separator, h.name, h.name_free⟩

/-- The parts up to the name do not depend on the form, and the rest is what follows them. -/
theorem Typed.typed?_eq (h : Typed k d after) :
    typed? some (d.text ++ after) = some { d with terminator := d.terminator ++ after } := by
  rw [text_append]
  exact typed?_append (h.head.with_terminator _) h.terminator.noneAhead rfl

theorem Typed.form_unique (h : Typed k d after) (h' : Typed k' d' after')
    (ht : d.text ++ after = d'.text ++ after') : k = k' := by
  have hheads := h.typed?_eq
  rw [ht, h'.typed?_eq, Option.some.injEq] at hheads
  have hrest : d'.terminator ++ after' = d.terminator ++ after :=
    congrArg Declaration.terminator hheads
  exact h.terminator.opens.unique (hrest ▸ h'.terminator.opens)

theorem Splits.cases (h : Splits k t d) :
    (∃ after, t = d.text ++ after ∧ Typed k d after) ∨
      k = .method ∧ ∃ after, t = d.text ++ after ∧ Constructs d after := by
  cases h with
  | @typed _ _ after h => exact .inl ⟨after, rfl, h⟩
  | @constructs _ after h => exact .inr ⟨rfl, after, rfl, h⟩

/-- **One form and one way.** However a declaration is cut, it is cut in the same way. -/
theorem Splits.unique (h : Splits k t d) (h' : Splits k' t d') : k' = k ∧ d' = d := by
  have hform : k' = k := by
    rcases h.cases with ⟨after, ht, hd⟩ | ⟨rfl, after, ht, hd⟩
    · rcases h'.cases with ⟨after', ht', hd'⟩ | ⟨rfl, after', ht', hd'⟩
      · exact hd'.form_unique hd (ht'.symm.trans ht)
      · -- a constructor is no declaration with a type
        have hnone := typed?_of_constructs hd' some
        rw [← ht', ht, hd.typed?_eq] at hnone
        cases hnone
    · rcases h'.cases with ⟨after', ht', hd'⟩ | ⟨rfl, -⟩
      · have hnone := typed?_of_constructs hd some
        rw [← ht, ht', hd'.typed?_eq] at hnone
        cases hnone
      · rfl
  subst hform
  have hread := (Form.read?_eq_some_iff.2 h').symm.trans (Form.read?_eq_some_iff.2 h)
  exact ⟨rfl, Option.some.inj hread⟩

/-! ## The words of a declaration -/

theorem noneBehind_of_gaps (hx : x ∈ gaps) (t : Text) : NoneBehind isWord (t ++ x) := by
  rw [noneBehind_append_iff hx.1]
  intro c hc
  exact not_isWord_of_isGap (hx.2 c (List.mem_of_getLast? hc))

theorem noneBehind_wordRows (hx : x ∈ wordRows ws) : NoneBehind isWord x := by
  refine kstar_induction noneBehind_nil ?_ hx
  rintro _ ⟨w, -, g, hg, rfl⟩ z - hz
  exact (noneBehind_of_gaps hg w).append hz

/-- A word that stands behind some characters from a place on. -/
theorem mem_words_of_drop (hsplit : s.drop i = x ++ (w ++ v))
    (hbehind : NoneBehind isWord (s.take i ++ x)) (hne : w ≠ []) (hw : ∀ c ∈ w, isWord c = true)
    (hahead : NoneAhead isWord v) : (i + x.length, w) ∈ words s := by
  have hlength : i ≤ s.length := by
    by_contra hlarge
    rw [List.drop_eq_nil_of_le (by omega)] at hsplit
    have hempty := List.append_eq_nil_iff.1 hsplit.symm
    exact hne (List.append_eq_nil_iff.1 hempty.2).1
  refine mem_words_iff.2 ⟨⟨s.take i ++ x, v, ?_, ?_, hbehind, hahead⟩, hne, hw⟩
  · rw [List.append_assoc, ← hsplit, List.take_append_drop]
  · rw [List.length_append, List.length_take, Nat.min_eq_left hlength]

/-- What the words of a text say about the parts of a declaration that begins at a place of it. -/
structure InPlace (s : Text) (i : Nat) (k : Form) (d : Declaration) : Prop where
  /-- A type begins with a whole word that is not reserved. -/
  typeName : d.typeName ≠ [] → ∃ w ∉ reservedWords,
    w <+: d.typeName ∧ (i + d.modifiers.length, w) ∈ words s
  /-- Without a type there is a method, which begins with an access modifier. -/
  access : d.typeName = [] → k = .method ∧ ∃ w ∈ accessWords, w <+: d.modifiers ∧ (i, w) ∈ words s
  /-- A name is a whole word. -/
  name : (i + (d.modifiers ++ d.typeName ++ d.separator).length, d.name) ∈ words s
  /-- A name is neither reserved nor a built-in type. -/
  name_free : d.name ∉ reservedWords ∧ d.name ∉ builtinWords

theorem name_in_place (hsplit : s.drop i = x ++ (w ++ rest))
    (hbehind : NoneBehind isWord (s.take i ++ x)) (hw : w ∈ identifiers)
    (hfree : ¬ Bars (reservedWords ++ builtinWords) (w ++ rest)) (hrest : NoneAhead isWord rest) :
    (i + x.length, w) ∈ words s ∧ w ∉ reservedWords ∧ w ∉ builtinWords := by
  refine ⟨mem_words_of_drop hsplit hbehind (ne_nil_of_mem_identifiers hw)
    (mem_run_of_mem_identifiers hw) hrest, ?_, ?_⟩
  · intro hmem
    exact hfree ⟨w, List.mem_append_left _ hmem, rest, rfl, hrest⟩
  · intro hmem
    exact hfree ⟨w, List.mem_append_right _ hmem, rest, rfl, hrest⟩

theorem firstWord_ne_nil (h : x ∈ typeNames) : x.takeWhile isWord ≠ [] := by
  obtain ⟨_, ⟨c, r, rfl, hc, -⟩, y, -, rfl⟩ := h
  show (c :: (r ++ y)).takeWhile isWord ≠ []
  rw [List.takeWhile_cons_of_pos (isWord_of_startsIdentifier hc)]
  exact List.cons_ne_nil _ _

/-- The first word of a type is all the word characters that the type begins with. -/
theorem Head.type_in_place (h : Head d rest)
    (hs : s.drop i = d.modifiers ++ (d.typeName ++ (d.separator ++ (d.name ++ rest))))
    (hbehind : NoneBehind isWord (s.take i)) :
    ∃ w ∉ reservedWords, w <+: d.typeName ∧ (i + d.modifiers.length, w) ∈ words s := by
  have hparts := takeWhile_append_drop isWord d.typeName
  have hne := firstWord_ne_nil h.typeName
  have hword : ∀ c ∈ d.typeName.takeWhile isWord, isWord c = true :=
    fun c hc => List.mem_takeWhile_imp hc
  have hahead := (noneAhead_drop_takeWhile isWord d.typeName).append
    (noneAhead_gaps h.separator (d.name ++ rest))
  generalize d.typeName.takeWhile isWord = w at hparts hne hword hahead
  generalize d.typeName.drop w.length = tail at hparts hahead
  have hsplit : d.typeName ++ (d.separator ++ (d.name ++ rest)) =
      w ++ (tail ++ (d.separator ++ (d.name ++ rest))) := by
    rw [← hparts, List.append_assoc]
  refine ⟨w, ?_, ⟨tail, hparts⟩, ?_⟩
  · intro hmem
    exact h.typeName_free ⟨w, hmem, _, hsplit, hahead⟩
  · exact mem_words_of_drop (hs.trans (by rw [hsplit]))
      (hbehind.append (noneBehind_wordRows h.modifiers)) hne hword hahead

theorem Typed.inPlace (h : Typed k d after) (hs : s.drop i = d.text ++ after)
    (hbehind : NoneBehind isWord (s.take i)) : InPlace s i k d := by
  rw [text_append] at hs
  have hname := name_in_place (x := d.modifiers ++ d.typeName ++ d.separator)
    (by rw [hs]; simp only [List.append_assoc])
    (by rw [← List.append_assoc]; exact noneBehind_of_gaps h.head.separator _)
    h.head.name h.head.name_free h.terminator.noneAhead
  refine ⟨fun _ => h.head.type_in_place hs hbehind, fun hnone => ?_, hname.1, hname.2⟩
  have hne := firstWord_ne_nil h.head.typeName
  rw [hnone] at hne
  exact absurd List.takeWhile_nil hne

theorem Constructs.inPlace (h : Constructs d after) (hs : s.drop i = d.text ++ after)
    (hbehind : NoneBehind isWord (s.take i)) : InPlace s i .method d := by
  rw [h.text_append] at hs
  have hnothing : d.modifiers ++ d.typeName ++ d.separator = d.modifiers := by
    rw [h.typeName, h.separator, List.append_nil, List.append_nil]
  have hname := name_in_place hs (hbehind.append (noneBehind_wordRows h.modifiers_mem)) h.name
    h.name_free h.name_ends
  refine ⟨fun hsome => absurd h.typeName hsome, fun _ => ⟨rfl, ?_⟩, ?_, hname.2⟩
  · obtain ⟨_, ⟨w, hw, g, hg, rfl⟩, m, -, hparts⟩ := h.modifiers
    change w ++ g ++ m = d.modifiers at hparts
    refine ⟨w, hw, ⟨g ++ m, by rw [← hparts, List.append_assoc]⟩, ?_⟩
    have hne : w ≠ [] := (by decide : ∀ w ∈ accessWords, w ≠ []) w hw
    refine mem_words_of_drop (x := []) (v := g ++ (m ++ (d.name ++ (d.terminator ++ after)))) ?_ ?_
      hne (isWord_of_mem_accessWords w hw) (noneAhead_gaps hg _)
    · rw [hs, ← hparts]
      simp only [List.append_assoc, List.nil_append]
    · rwa [List.append_nil]
  · rw [hnothing]
    exact hname.1

theorem Splits.inPlace (h : Splits k (s.drop i) d)
    (hmay : mayDeclareAfter (s.take i).getLast? = true) : InPlace s i k d := by
  have hbehind : NoneBehind isWord (s.take i) := by
    intro c hc
    rw [mayDeclareAfter, Option.mem_def.1 hc] at hmay
    simp_all
  rcases h.cases with ⟨after, hs, hd⟩ | ⟨rfl, after, hs, hd⟩
  · exact hd.inPlace hs hbehind
  · exact hd.inPlace hs hbehind

/-! ## The rules -/

theorem Form.unique_of_matchAt (h' : (k'.recogniser.matchAt s i).isSome)
    (h : (k.recogniser.matchAt s i).isSome) : k' = k := by
  obtain ⟨n', hn'⟩ := Option.isSome_iff_exists.1 h'
  obtain ⟨n, hn⟩ := Option.isSome_iff_exists.1 h
  obtain ⟨-, d', hsplits', -⟩ := Form.matchAt_eq_some_iff.1 hn'
  obtain ⟨-, d, hsplits, -⟩ := Form.matchAt_eq_some_iff.1 hn
  exact (hsplits.unique hsplits').1

/-- **No declaration is found twice.** What two rules for declarations find in a text, each in its
    own search, are different places. -/
theorem Form.unique_of_mem_occurrences (h' : i ∈ k'.recogniser.occurrences s)
    (h : i ∈ k.recogniser.occurrences s) : k' = k :=
  Form.unique_of_matchAt (Recogniser.isSome_of_mem_occurrences h')
    (Recogniser.isSome_of_mem_occurrences h)

/-- **Declarations are recognised in one way.** Where the rule for a form matches, no other rule for
    declarations does. What stands there can be cut into the parts of a declaration of some form in
    one way only, by which it has that form and is as long as the match; a type begins with a whole
    word that is not reserved and is missing only behind an access modifier; and the name is a
    whole word that is neither reserved nor a built-in type. -/
theorem declaration_splits_once (h : k.recogniser.matchAt s i = some n) :
    (∀ k' : Form, (k'.recogniser.matchAt s i).isSome → k' = k) ∧
    ∃ d, Splits k (s.drop i) d ∧ d.size = n ∧
      (∀ k' d', Splits k' (s.drop i) d' → k' = k ∧ d' = d) ∧ InPlace s i k d := by
  obtain ⟨hmay, d, hsplits, hsize⟩ := Form.matchAt_eq_some_iff.1 h
  refine ⟨?_, d, hsplits, hsize, fun k' d' h' => hsplits.unique h', hsplits.inPlace hmay⟩
  intro k' hk'
  exact Form.unique_of_matchAt hk' (by rw [h]; rfl)

/-- A field behind a statement, with modifiers, a type with nested arguments, and a value. -/
def sampleField : Text := "x; private static Map<Key, List<int>>? total = 3;".toList

theorem declaration_splits_once_sampleField :
    Form.fieldOrLocal.recogniser.matchAt sampleField 3 = some 43 ∧
    (∀ k' : Form, (k'.recogniser.matchAt sampleField 3).isSome → k' = .fieldOrLocal) ∧
    ∃ d, Splits .fieldOrLocal (sampleField.drop 3) d ∧ d.size = 43 ∧
      (∀ k' d', Splits k' (sampleField.drop 3) d' → k' = .fieldOrLocal ∧ d' = d) ∧
        InPlace sampleField 3 .fieldOrLocal d :=
  ⟨by decide +kernel, declaration_splits_once (by decide +kernel)⟩

end SourceCensus.Rule
