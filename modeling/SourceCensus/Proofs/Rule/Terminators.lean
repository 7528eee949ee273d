import SourceCensus.Proofs.Rule.Parts

/-! # Reading terminators

    The terminator of a declaration tells its form: behind white space stands an arrow or an opening
    brace, a plain equals sign or a semicolon, an opening angle bracket or parenthesis
    (`Form.Opens`), and no two forms share one of these (`Form.Opens.unique`).
-/

namespace SourceCensus.Rule

open Text Vocabulary
open scoped Computability

variable {p : Char → Bool} {t x y w after stop : Text} {k : Form}

/-! ## Accessors -/

theorem reads_bodyMark? : Reads bodyMark? (oneOf bodyMarks) fun _ => True where
  sound {t x} h := by
    unfold bodyMark? at h
    split at h
    · cases h
      exact ⟨mem_oneOf.2 (by decide), (List.prefix_cons_inj ';').2 List.nil_prefix⟩
    · cases h
      exact ⟨mem_oneOf.2 (by decide), (List.prefix_cons_inj '{').2 List.nil_prefix⟩
    · cases h
      exact ⟨mem_oneOf.2 (by decide), ⟨_, rfl⟩⟩
    · cases h
  whole {x after} hx _ := by
    simp only [mem_oneOf, bodyMarks, List.mem_cons, List.not_mem_nil, or_false] at hx
    rcases hx with rfl | rfl | rfl <;> rfl

theorem reads_accessorWord? : Reads accessorWord? (oneOf accessorWords) fun _ => True where
  sound {t x} h := by
    have hfront := List.find?_some (p := fun w : Text => w.isPrefixOf t) h
    exact ⟨List.mem_of_find?_eq_some h, List.isPrefixOf_iff_prefix.1 hfront⟩
  whole {x after} hx _ := by
    simp only [mem_oneOf, accessorWords, List.mem_cons, List.not_mem_nil, or_false] at hx
    rcases hx with rfl | rfl | rfl <;> rfl

theorem isWord_of_mem_accessorWords : ∀ w ∈ accessorWords, ∀ c ∈ w, isWord c = true :=
  isWord_of_all (by decide)

theorem isWord_of_mem_accessWords : ∀ w ∈ accessWords, ∀ c ∈ w, isWord c = true :=
  isWord_of_all (by decide)

theorem reads_access? :
    Reads (wordAndGap? accessWords) (oneOf accessWords * gaps) (NoneAhead isGap) :=
  reads_wordAndGap? isWord_of_mem_accessWords

theorem noneAhead_bodyMarks (hp : [';', '{', '='].any p = false) (hx : x ∈ oneOf bodyMarks)
    (t : Text) : NoneAhead p (x ++ t) := by
  have h : ∀ c ∈ [';', '{', '='], p c = false := by simpa using hp
  simp only [mem_oneOf, bodyMarks, List.mem_cons, List.not_mem_nil, or_false] at hx
  rcases hx with rfl | rfl | rfl
  · exact noneAhead_cons.2 (h _ (by decide))
  · exact noneAhead_cons.2 (h _ (by decide))
  · exact noneAhead_cons.2 (h _ (by decide))

/-- The word of an accessor is no access modifier, so none is read where it stands. -/
theorem no_access_before_accessor (hw : w ∈ oneOf accessorWords) (ht : NoneAhead isWord t) :
    NoneAhead isGap (w ++ t) ∧ wordAndGap? accessWords (w ++ t) = none := by
  have hne : w ≠ [] := (by decide : ∀ w ∈ accessorWords, w ≠ []) w hw
  have hword := isWord_of_mem_accessorWords w hw
  refine ⟨noneAhead_of_word (fun _ h => not_isWord_of_isGap h) hne hword t, ?_⟩
  refine wordAndGap?_eq_none ?_
  rw [takeWhile_append_of_noneAhead hword ht]
  exact (by decide : ∀ w ∈ accessorWords, w ∉ accessWords) w hw

theorem noneAhead_accessors (hx : x ∈ perhaps (oneOf accessWords * gaps))
    (hw : w ∈ oneOf accessorWords) (t : Text) : NoneAhead isBlank (x ++ (w ++ t)) := by
  rcases hx with rfl | hx
  · have hne : w ≠ [] := (by decide : ∀ w ∈ accessorWords, w ≠ []) w hw
    exact noneAhead_of_word (fun _ h => not_isWord_of_isBlank h) hne
      (isWord_of_mem_accessorWords w hw) t
  · exact noneAhead_wordAndGap (fun _ h => not_isWord_of_isBlank h) (by decide)
      isWord_of_mem_accessWords hx _

theorem reads_accessorBlock? : Reads accessorBlock? accessorBlocks fun _ => True where
  sound {t x} h := by
    unfold accessorBlock? at h
    split at h
    · rename_i rest
      dsimp only at h
      split at h
      · cases h
      · rename_i word hword
        obtain ⟨mark, hmark, rfl⟩ := Option.map_eq_some_iff.1 h
        -- blanks, access, word, blanks and mark are taken off the front in turn
        obtain ⟨hspace, hspaceFront⟩ := (takes_takeWhile isBlank).sound rest
        obtain ⟨haccess, haccessFront⟩ := reads_access?.takes_getD.sound
          (rest.drop (rest.takeWhile isBlank).length)
        obtain ⟨hmem, hfront⟩ := reads_accessorWord?.sound hword
        obtain ⟨htail, htailFront⟩ := (takes_takeWhile isBlank).sound (rest.drop
          (rest.takeWhile isBlank ++ ((wordAndGap? accessWords
            (rest.drop (rest.takeWhile isBlank).length)).getD []) ++ word).length)
        rw [← List.length_append] at hmark
        obtain ⟨hend, hendFront⟩ := reads_bodyMark?.sound hmark
        refine ⟨cons_mem_mul '{' ?_, (List.prefix_cons_inj '{').2 ?_⟩
        · rw [List.append_assoc, List.append_assoc, List.append_assoc]
          exact Language.append_mem_mul hspace (Language.append_mem_mul haccess
            (Language.append_mem_mul hmem (Language.append_mem_mul htail hend)))
        · exact append_front (append_front (append_front (append_front hspaceFront haccessFront)
            hfront) htailFront) hendFront
    · cases h
  whole := by
    rintro _ after ⟨_, rfl, _, ⟨s, hs, _, ⟨a, ha, _, ⟨w, hw, _, ⟨b, hb, m, hm, rfl⟩, rfl⟩, rfl⟩,
      rfl⟩, rfl⟩ -
    -- from the back, as each part ends before what the next one begins with
    have hmark := reads_bodyMark?.anywhere hm after
    have htail := takeWhile_append_of_noneAhead hb
      (noneAhead_bodyMarks (p := isBlank) (by decide) hm after)
    have hword := reads_accessorWord?.anywhere hw (b ++ (m ++ after))
    have hend : NoneAhead isWord (b ++ (m ++ after)) :=
      (noneAhead_run (fun _ h => not_isWord_of_isBlank h) hb).append
        (noneAhead_bodyMarks (by decide) hm after)
    have haccess := reads_access?.takes_getD.whole ha (no_access_before_accessor hw hend)
    have hspace := takeWhile_append_of_noneAhead hs
      (noneAhead_accessors ha hw (b ++ (m ++ after)))
    simp only [List.cons_append, List.nil_append, List.append_assoc, accessorBlock?, hspace,
      List.drop_left, haccess, drop_append_append, hword, htail, ← List.length_append, hmark,
      Option.map_some]

/-! ## The ends of properties -/

theorem reads_propertyEnd? : Reads propertyEnd? propertyEnds fun _ => True where
  sound {t x} h := by
    simp only [propertyEnd?] at h
    -- an arrow or a block of accessors, each behind blanks
    obtain ⟨hspace, hspaceFront⟩ := (takes_takeWhile isBlank).sound t
    split at h
    · rename_i more hmore
      cases h
      refine ⟨Language.append_mem_mul hspace (.inl rfl), append_front hspaceFront ?_⟩
      rw [hmore]
      exact ⟨more, rfl⟩
    · obtain ⟨block, hblock, rfl⟩ := Option.map_eq_some_iff.1 h
      obtain ⟨hmem, hfront⟩ := reads_accessorBlock?.sound hblock
      exact ⟨Language.append_mem_mul hspace (.inr hmem), append_front hspaceFront hfront⟩
  whole := by
    rintro _ after ⟨s, hs, y, hy, rfl⟩ -
    rw [List.append_assoc]
    have hspace : (s ++ (y ++ after)).takeWhile isBlank = s := by
      refine takeWhile_append_of_noneAhead hs ?_
      -- neither an arrow nor a brace is a blank
      rcases hy with rfl | ⟨_, rfl, z, -, rfl⟩
      · exact noneAhead_cons.2 (by decide)
      · exact noneAhead_cons.2 (by decide)
    simp only [propertyEnd?, hspace, List.drop_left]
    rcases hy with rfl | hy
    · rfl
    · have hblock := reads_accessorBlock?.anywhere hy after
      obtain ⟨z, -, rfl⟩ := exists_of_mem_mul_cons hy
      rw [List.cons_append] at hblock ⊢
      show (accessorBlock? ('{' :: (z ++ after))).map (s ++ ·) = _
      rw [hblock, Option.map_some]

/-! ## The ends of methods -/

theorem reads_typeParameters? :
    Reads typeParameters? (perhaps typeParameters) (NoneAhead (· = '<')) where
  sound {t x} h := by
    unfold typeParameters? at h
    -- behind the bracket comes the body, which holds no bracket
    split at h
    · rename_i rest
      dsimp only at h
      split at h
      · rename_i more hmore
        cases h
        obtain ⟨hbody, hfront⟩ :=
          (takes_takeWhile fun c => !(['<', '>', '(', ')'].contains c)).sound rest
        exact ⟨mem_perhaps (cons_mem_mul '<' (Language.append_mem_mul hbody rfl)),
          enclosed_front hfront hmore List.nil_prefix⟩
      · cases h
    · cases h
      exact ⟨nil_mem_perhaps _, List.nil_prefix⟩
  whole := by
    rintro x after (rfl | ⟨_, rfl, _, ⟨a, ha, _, rfl, rfl⟩, rfl⟩) hafter
    · unfold typeParameters?
      split
      · rename_i h
        rw [List.nil_append] at h
        rw [h] at hafter
        cases noneAhead_cons.1 hafter
      · rfl
    · -- brackets stop the body, so it ends where the parameters do
      have hbody :
          (a ++ '>' :: after).takeWhile (fun c => !(['<', '>', '(', ')'].contains c)) = a :=
        takeWhile_append_of_noneAhead ha (noneAhead_cons.2 (by decide))
      simp only [List.cons_append, List.nil_append, List.append_assoc, typeParameters?, hbody,
        List.drop_left]

theorem reads_openingParenthesis? : Reads openingParenthesis? openingParentheses fun _ => True where
  sound {t x} h := by
    simp only [openingParenthesis?] at h
    split at h
    · rename_i more hmore
      cases h
      obtain ⟨hspace, hfront⟩ := takes_gap.sound t
      refine ⟨Language.append_mem_mul hspace rfl, append_front hfront ?_⟩
      rw [hmore]
      exact (List.prefix_cons_inj '(').2 List.nil_prefix
    · cases h
  whole := by
    rintro _ after ⟨g, hg, _, rfl, rfl⟩ -
    have hspace : gap (g ++ '(' :: after) = g :=
      takes_gap.whole hg (noneAhead_cons.2 (by decide))
    simp only [List.append_assoc, List.cons_append, List.nil_append, openingParenthesis?, hspace,
      List.drop_left]

/-- An opening parenthesis ends a type, and so a word, with a gap before it or without. -/
theorem noneAhead_openingParentheses (hx : x ∈ openingParentheses) (t : Text) :
    NoneAhead carriesType (x ++ t) := by
  obtain ⟨g, hg, _, rfl, rfl⟩ := hx
  rw [List.append_assoc]
  exact (noneAhead_run (fun _ h => not_carriesType_of_isGap h) hg).append
    (noneAhead_cons.2 (by decide))

/-- The parts of the end of a method, where the first gap is known to end. -/
theorem methodEnd?_append (hx : x ∈ run isGap) (hy : y ∈ perhaps typeParameters)
    (hw : w ∈ openingParentheses) (hahead : NoneAhead isGap (y ++ (w ++ after))) :
    methodEnd? (x ++ (y ++ (w ++ after))) = some (x ++ (y ++ w)) := by
  have hspace : gap (x ++ (y ++ (w ++ after))) = x := takes_gap.whole hx hahead
  have hparameters : typeParameters? (y ++ (w ++ after)) = some y :=
    reads_typeParameters?.whole hy
      ((noneAhead_openingParentheses hw after).mono (by simp [carriesType]))
  have hopening := reads_openingParenthesis?.anywhere hw after
  simp only [methodEnd?, hspace, List.drop_left, hparameters, drop_append_append, hopening,
    Option.map_some, List.append_assoc]

/-- **Two gaps.** Where no type parameters stand, the two gaps of a method are read as one. -/
theorem reads_methodEnd? : Reads methodEnd? methodEnds fun _ => True where
  sound {t x} h := by
    simp only [methodEnd?] at h
    split at h
    · cases h
    · rename_i parameters hparameters
      obtain ⟨opening, hopening, rfl⟩ := Option.map_eq_some_iff.1 h
      -- gap, parameters and parenthesis are taken off the front in turn
      obtain ⟨hspace, hspaceFront⟩ := takes_gap.sound t
      obtain ⟨hmem, hfront⟩ := reads_typeParameters?.sound hparameters
      obtain ⟨hopen, hopenFront⟩ := reads_openingParenthesis?.sound hopening
      refine ⟨?_, append_front (append_front hspaceFront hfront) hopenFront⟩
      rw [List.append_assoc]
      exact Language.append_mem_mul hspace (Language.append_mem_mul hmem hopen)
  whole := by
    rintro _ after ⟨s, hs, _, ⟨a, ha, y, hy, rfl⟩, rfl⟩ -
    simp only [List.append_assoc]
    rcases ha with rfl | ha
    · -- without type parameters both gaps are taken as the first one
      obtain ⟨g, hg, _, rfl, rfl⟩ := hy
      have hopening : ['('] ∈ openingParentheses := ⟨[], List.forall_mem_nil _, ['('], rfl, rfl⟩
      have hahead : NoneAhead isGap ([] ++ (['('] ++ after)) := noneAhead_cons.2 (by decide)
      have hone := methodEnd?_append (append_mem_run hs hg) (nil_mem_perhaps _) hopening hahead
      simpa only [List.append_assoc, List.nil_append] using hone
    · -- type parameters begin with a bracket, at which the first gap ends
      refine methodEnd?_append hs (mem_perhaps ha) hy ?_
      obtain ⟨z, -, rfl⟩ := exists_of_mem_mul_cons ha
      exact noneAhead_cons.2 (by decide)

/-! ## The ends of fields -/

theorem fieldEnd?_eq_some_iff : fieldEnd? t = some stop ↔
    ∃ after, t = stop ++ after ∧ Form.Ends .fieldOrLocal stop after := by
  constructor
  · intro h
    obtain ⟨hspace, hfront⟩ := takes_gap.sound t
    have hsplit := List.prefix_iff_eq_append.1 hfront
    simp only [fieldEnd?] at h
    -- an equals sign has to stand alone, a semicolon need not
    split at h
    · rename_i rest hrest
      split at h
      · cases h
      · rename_i hlone
        cases h
        rw [hrest] at hsplit
        refine ⟨rest, by rw [List.append_assoc]; exact hsplit.symm, .equals hspace ?_⟩
        cases rest with
        | nil => exact noneAhead_nil
        | cons c rest => simpa using hlone
    · rename_i rest hrest
      cases h
      rw [hrest] at hsplit
      exact ⟨rest, by rw [List.append_assoc]; exact hsplit.symm, .semicolon hspace rest⟩
    · cases h
  · rintro ⟨after, rfl, h⟩
    cases h with
    | @equals space _ hspace hafter =>
      have hgap : gap (space ++ '=' :: after) = space :=
        takes_gap.whole hspace (noneAhead_cons.2 (by decide))
      have hlone : ¬ (after.head? = some '=' ∨ after.head? = some '>') := by
        rintro (hhead | hhead)
        · cases hafter '=' hhead
        · cases hafter '>' hhead
      simp only [List.append_assoc, List.cons_append, List.nil_append, fieldEnd?, hgap,
        List.drop_left, Bool.or_eq_true, decide_eq_true_eq, if_neg hlone]
    | @semicolon space hspace _ =>
      have hgap : gap (space ++ ';' :: after) = space :=
        takes_gap.whole hspace (noneAhead_cons.2 (by decide))
      simp only [List.append_assoc, List.cons_append, List.nil_append, fieldEnd?, hgap,
        List.drop_left]

/-! ## Telling the forms apart -/

namespace Form

/-- The reader for the terminators of a form. -/
def readEnd? : Form → Text → Option Text
  | property => propertyEnd?
  | fieldOrLocal => fieldEnd?
  | method => methodEnd?

/-- **Terminators** are read exactly as the grammar has them. -/
theorem readEnd?_eq_some_iff : k.readEnd? t = some stop ↔
    ∃ after, t = stop ++ after ∧ k.Ends stop after := by
  cases k with
  | property =>
    constructor
    · intro h
      obtain ⟨hmem, after, rfl⟩ := reads_propertyEnd?.sound h
      exact ⟨after, rfl, .property hmem after⟩
    · rintro ⟨after, rfl, h⟩
      cases h with
      | property h => exact reads_propertyEnd?.anywhere h after
  | fieldOrLocal => exact fieldEnd?_eq_some_iff
  | method =>
    constructor
    · intro h
      obtain ⟨hmem, after, rfl⟩ := reads_methodEnd?.sound h
      exact ⟨after, rfl, .method hmem after⟩
    · rintro ⟨after, rfl, h⟩
      cases h with
      | method h => exact reads_methodEnd?.anywhere h after

/-- What the terminator of a form shows behind its white space. -/
inductive Opens : Form → Text → Prop
  | arrow (t : Text) : Opens property ('=' :: '>' :: t)
  | brace (t : Text) : Opens property ('{' :: t)
  | equals {t : Text} (h : NoneAhead (fun c => c = '=' || c = '>') t) :
      Opens fieldOrLocal ('=' :: t)
  | semicolon (t : Text) : Opens fieldOrLocal (';' :: t)
  | angle (t : Text) : Opens method ('<' :: t)
  | parenthesis (t : Text) : Opens method ('(' :: t)

theorem Opens.unique {k' : Form} (h : k.Opens t) (h' : k'.Opens t) : k = k' := by
  cases h with
  | arrow t =>
    cases h' with
    | arrow => rfl
    | equals hlone => cases noneAhead_cons.1 hlone
  | brace t => cases h' with | brace => rfl
  | equals hlone =>
    cases h' with
    | arrow => cases noneAhead_cons.1 hlone
    | equals => rfl
  | semicolon t => cases h' with | semicolon => rfl
  | angle t => cases h' with | angle => rfl
  | parenthesis t => cases h' with | parenthesis => rfl

theorem Opens.noneAhead (h : k.Opens t) (hp : ['=', '{', ';', '<', '('].any p = false) :
    NoneAhead p t := by
  have hopening : ∀ c ∈ ['=', '{', ';', '<', '('], p c = false := by simpa using hp
  cases h <;> exact noneAhead_cons.2 (hopening _ (by decide))

/-- **The opening of a terminator** is what stands behind white space, of which fields and methods
    take only spaces and tabs. -/
theorem Ends.opens (h : k.Ends stop after) : k.Opens ((stop ++ after).dropWhile isBlank) := by
  -- white space in front is skipped, and gaps are white space
  have hskip : ∀ {x t : Text}, x ∈ run isBlank → k.Opens t →
      k.Opens ((x ++ t).dropWhile isBlank) := by
    intro x t hx ht
    rwa [dropWhile_append_of_noneAhead hx (ht.noneAhead (by decide))]
  have hgap : ∀ {x : Text}, x ∈ run isGap → x ∈ run isBlank := fun hx c hc =>
    isBlank_of_isGap (hx c hc)
  cases h with
  | property h after =>
    obtain ⟨s, hs, y, hy, rfl⟩ := h
    rw [List.append_assoc]
    refine hskip hs ?_
    rcases hy with rfl | ⟨_, rfl, z, -, rfl⟩
    · exact .arrow after
    · exact .brace _
  | equals hs hafter =>
    rw [List.append_assoc]
    exact hskip (hgap hs) (.equals hafter)
  | semicolon hs after =>
    rw [List.append_assoc]
    exact hskip (hgap hs) (.semicolon after)
  | method h after =>
    obtain ⟨s, hs, _, ⟨a, ha, _, ⟨g, hg, _, rfl, rfl⟩, rfl⟩, rfl⟩ := h
    rcases ha with rfl | ⟨_, rfl, z, -, rfl⟩
    · -- two gaps are skipped as one
      have hsplit : s ++ ([] ++ (g ++ ['('])) ++ after = (s ++ g) ++ '(' :: after := by simp
      rw [hsplit]
      exact hskip (append_mem_run (hgap hs) (hgap hg)) (.parenthesis after)
    · rw [List.append_assoc]
      exact hskip (hgap hs) (.angle _)

/-- A terminator ends the name before it. -/
theorem Ends.noneAhead (h : k.Ends stop after) : NoneAhead isWord (stop ++ after) := by
  have hopens := h.opens.noneAhead (p := isWord) (by decide)
  cases hwhole : stop ++ after with
  | nil => exact noneAhead_nil
  | cons c t =>
    refine noneAhead_cons.2 ?_
    by_cases hc : isBlank c = true
    · exact not_isWord_of_isBlank hc
    · rw [hwhole, List.dropWhile_cons_of_neg hc] at hopens
      exact noneAhead_cons.1 hopens

end Form

end SourceCensus.Rule
