import SourceCensus.Proofs.Occurrence
import SourceCensus.Proofs.Rule.Terminators

/-! # Reading declarations

    A declaration is read part by part, each part by its own reader, which takes the longest piece
    it can. That loses nothing (`Form.read?_eq_some_iff`): a declaration of some form stands at the
    front of a text, by whatever choice of where its parts end, exactly if the reader of the form
    finds it, with these same parts.

    Main steps:
    - `takes_modifiers`: modifiers are reserved words, so neither a type nor a name begins with one.
    - `typed?_append`, `typed?_sound`: up to its name a declaration is read in one way, whatever
      terminator is asked for.
    - `typed?_of_constructs`: what is a constructor is not a declaration with a type.
-/

namespace SourceCensus.Rule

open Text Vocabulary
open scoped Computability

variable {t x after rest : Text} {ws : List Text} {k : Form} {d : Declaration}
  {stop? : Text → Option Text} {n i : Nat}

/-! ## Modifiers -/

theorem isWord_of_mem_modifierWords : ∀ w ∈ modifierWords, ∀ c ∈ w, isWord c = true :=
  isWord_of_all (by decide)

theorem mem_reservedWords_of_modifier : ∀ w ∈ modifierWords, w ∈ reservedWords := by
  decide

theorem Bars.mono {ws' : List Text} (hws : ∀ w ∈ ws, w ∈ ws') (h : Bars ws t) : Bars ws' t := by
  obtain ⟨w, hw, rest, hsplit, hrest⟩ := h
  exact ⟨w, hws w hw, rest, hsplit, hrest⟩

/-- **Modifiers** are left neither to a type nor to a name, for all of them are reserved. -/
theorem takes_modifiers : Takes modifiers (wordRows modifierWords)
    (fun t => NoneAhead isGap t ∧ ¬ Bars reservedWords t) := by
  have hpiece := reads_wordAndGap? isWord_of_mem_modifierWords
  refine (takes_repeated hpiece (nil_notMem_wordAndGap _) ?_).mono ?_
  · intro x hx u
    exact noneAhead_wordAndGap (fun _ h => not_isWord_of_isGap h) (by decide)
      isWord_of_mem_modifierWords hx u
  · rintro t ⟨hgap, hfree⟩
    refine ⟨hgap, wordAndGap?_eq_none ?_⟩
    rw [← bars_iff isWord_of_mem_modifierWords]
    exact fun h => hfree (h.mono mem_reservedWords_of_modifier)

/-! ## Declarations with a type -/

theorem noneAhead_typeNames (hx : x ∈ typeNames) (t : Text) : NoneAhead isGap (x ++ t) := by
  obtain ⟨w, hw, y, -, rfl⟩ := hx
  rw [List.append_assoc]
  exact noneAhead_identifiers hw _

theorem text_append (d : Declaration) (after : Text) : d.text ++ after =
    d.modifiers ++ (d.typeName ++ (d.separator ++ (d.name ++ (d.terminator ++ after)))) := by
  simp only [Declaration.text, List.append_assoc]

/-- **The head of a declaration** is read in its parts, whatever terminator is asked for. -/
theorem typed?_append (h : Head d rest) (hrest : NoneAhead isWord rest)
    (hstop : stop? rest = some d.terminator) :
    typed? stop? (d.modifiers ++ (d.typeName ++ (d.separator ++ (d.name ++ rest)))) = some d := by
  have hname : declaredName? (d.name ++ rest) = some d.name :=
    declaredName?_eq_some_iff.2 ⟨reads_identifier?.whole h.name hrest, h.name_free⟩
  have hseparator : gap? (d.separator ++ (d.name ++ rest)) = some d.separator :=
    reads_gap?.whole h.separator (noneAhead_identifiers h.name rest)
  have htype := typeName?_append h.typeName h.typeName_free
    (noneAhead_append_of_ne_nil h.separator.1
      (noneAhead_run (fun _ h => not_carriesType_of_isGap h) h.separator.2) _)
  have hmodifiers := takes_modifiers.whole h.modifiers
    ⟨noneAhead_typeNames h.typeName _, h.typeName_free⟩
  simp only [typed?, hmodifiers, List.drop_left, htype, hseparator, hname, hstop, Option.map_some]

/-- Whatever is found with a type has the parts of a head, and a terminator behind them. -/
theorem typed?_sound (h : typed? stop? t = some d) : ∃ rest,
    t = d.modifiers ++ (d.typeName ++ (d.separator ++ (d.name ++ rest))) ∧
      Head d rest ∧ stop? rest = some d.terminator := by
  obtain ⟨hmodifiers, hfront⟩ := takes_modifiers.sound t
  have hsplit := List.prefix_iff_eq_append.1 hfront
  -- each reader takes its part off the front, and the next one sees the rest
  simp only [typed?] at h
  generalize modifiers t = lead at h hmodifiers hsplit
  generalize t.drop lead.length = u at h hsplit
  split at h
  · cases h
  · rename_i type htype
    obtain ⟨htypeMem, ⟨u, rfl⟩, htypeFree⟩ := typeName?_sound htype
    rw [List.drop_left] at h
    split at h
    · cases h
    · rename_i separator hseparator
      obtain ⟨hseparatorMem, u, rfl⟩ := reads_gap?.sound hseparator
      rw [List.drop_left] at h
      split at h
      · cases h
      · rename_i name hname
        obtain ⟨hword, hnameFree⟩ := declaredName?_eq_some_iff.1 hname
        obtain ⟨hnameMem, u, rfl⟩ := reads_identifier?.sound hword
        rw [List.drop_left] at h
        obtain ⟨stop, hstop, rfl⟩ := Option.map_eq_some_iff.1 h
        exact ⟨u, hsplit.symm,
          ⟨hmodifiers, htypeMem, htypeFree, hseparatorMem, hnameMem, hnameFree⟩, hstop⟩

/-! ## Constructors -/

theorem Constructs.name_ends (h : Constructs d after) :
    NoneAhead isWord (d.terminator ++ after) :=
  (noneAhead_openingParentheses h.terminator after).mono (by simp +contextual [carriesType])

theorem Constructs.text_append (h : Constructs d after) :
    d.text ++ after = d.modifiers ++ (d.name ++ (d.terminator ++ after)) := by
  rw [Rule.text_append, h.typeName, h.separator, List.nil_append, List.nil_append]

theorem Constructs.name_unreserved (h : Constructs d after) :
    ¬ Bars reservedWords (d.name ++ (d.terminator ++ after)) :=
  fun hbars => h.name_free (hbars.mono fun _ hw => List.mem_append_left _ hw)

theorem constructor?_append (h : Constructs d after) :
    constructor? (d.text ++ after) = some d := by
  obtain ⟨v, hv, m, hm, hparts⟩ := h.modifiers
  have hrow : NoneAhead isGap m := noneAhead_kstar (fun y hy => by
    simpa using noneAhead_wordAndGap (fun _ h => not_isWord_of_isGap h) (by decide)
      isWord_of_mem_modifierWords hy []) hm
  have haccess := reads_access?.whole hv
    (hrow.append (noneAhead_identifiers h.name (d.terminator ++ after)))
  have hmodifiers := takes_modifiers.whole hm ⟨noneAhead_identifiers h.name _, h.name_unreserved⟩
  have hname : declaredName? (d.name ++ (d.terminator ++ after)) = some d.name :=
    declaredName?_eq_some_iff.2 ⟨reads_identifier?.whole h.name h.name_ends, h.name_free⟩
  have hopening := reads_openingParenthesis?.anywhere h.terminator after
  have hd : (⟨v ++ m, [], [], d.name, d.terminator⟩ : Declaration) = d := by
    obtain ⟨modifiers, typeName, separator, name, terminator⟩ := d
    obtain rfl : typeName = [] := h.typeName
    obtain rfl : separator = [] := h.separator
    obtain rfl : v ++ m = modifiers := hparts
    rfl
  rw [h.text_append, ← hparts, List.append_assoc]
  simp only [constructor?, haccess, List.drop_left, hmodifiers, drop_append_append, hname, hopening,
    Option.map_some, hd]

theorem constructor?_sound (h : constructor? t = some d) :
    ∃ after, t = d.text ++ after ∧ Constructs d after := by
  simp only [constructor?] at h
  split at h
  · cases h
  · rename_i access haccess
    -- the access, the modifiers and the name are taken off the front in turn
    obtain ⟨haccessMem, u, rfl⟩ := reads_access?.sound haccess
    rw [List.drop_left, drop_append_append] at h
    obtain ⟨hmodifiers, hfront⟩ := takes_modifiers.sound u
    have hsplit := List.prefix_iff_eq_append.1 hfront
    generalize modifiers u = lead at h hmodifiers hsplit
    generalize u.drop lead.length = v at h hsplit
    split at h
    · cases h
    · rename_i name hname
      obtain ⟨hword, hnameFree⟩ := declaredName?_eq_some_iff.1 hname
      obtain ⟨hnameMem, v, rfl⟩ := reads_identifier?.sound hword
      rw [List.drop_left] at h
      obtain ⟨stop, hstop, rfl⟩ := Option.map_eq_some_iff.1 h
      obtain ⟨hstopMem, after, rfl⟩ := reads_openingParenthesis?.sound hstop
      refine ⟨after, ?_, ⟨Language.append_mem_mul haccessMem hmodifiers, rfl, rfl, hnameMem,
        hnameFree, hstopMem⟩⟩
      rw [← hsplit]
      simp only [Declaration.text, List.append_assoc, List.nil_append]

theorem Constructs.modifiers_mem (h : Constructs d after) :
    d.modifiers ∈ wordRows modifierWords := by
  obtain ⟨_, ⟨w, hw, g, hg, rfl⟩, m, hm, hparts⟩ := h.modifiers
  rw [← hparts]
  have hmodifier := (by decide : ∀ w ∈ accessWords, w ∈ modifierWords) w hw
  exact append_mem_kstar (Language.append_mem_mul hmodifier hg) hm

theorem mem_typeNames_of_mem_identifiers (h : x ∈ identifiers) : x ∈ typeNames := by
  have hsuffix : [] ∈ typeSuffixes :=
    ⟨[], nil_mem_perhaps _, [], ⟨[], Language.nil_mem_kstar _, [], nil_mem_perhaps _, rfl⟩, rfl⟩
  have htail : [] ∈ perhaps typeArguments * typeSuffixes :=
    ⟨[], nil_mem_perhaps _, [], hsuffix, rfl⟩
  exact ⟨x, h, [], ⟨[], Language.nil_mem_kstar _, [], htail, rfl⟩, List.append_nil x⟩

/-- **A constructor has no type.** Were its name a type, another name would have to follow, and an
    opening parenthesis does. -/
theorem typed?_of_constructs (h : Constructs d after) (stop? : Text → Option Text) :
    typed? stop? (d.text ++ after) = none := by
  have hmodifiers := takes_modifiers.whole h.modifiers_mem
    ⟨noneAhead_identifiers h.name _, h.name_unreserved⟩
  have htype := typeName?_append (mem_typeNames_of_mem_identifiers h.name) h.name_unreserved
    (noneAhead_openingParentheses h.terminator after)
  rw [h.text_append]
  simp only [typed?, hmodifiers, List.drop_left, htype]
  obtain ⟨g, hg, _, rfl, hparts⟩ := h.terminator
  rw [← hparts, List.append_assoc]
  by_cases hne : g = []
  · -- there is no gap behind the name
    rw [hne]
    rfl
  · -- there is one, but no name begins with a parenthesis
    have hgap : gap? (g ++ (['('] ++ after)) = some g :=
      reads_gap?.whole ⟨hne, hg⟩ (noneAhead_cons.2 (by decide))
    simp only [hgap, List.drop_left]
    rfl

/-! ## The readers of the forms -/

namespace Form

/-- The reader for the declarations of a form. -/
def read? : Form → Text → Option Declaration
  | property => typed? propertyEnd?
  | fieldOrLocal => typed? fieldEnd?
  | method => methodHead?

theorem typed?_eq_some_iff : typed? k.readEnd? t = some d ↔
    ∃ after, t = d.text ++ after ∧ Typed k d after := by
  constructor
  · intro h
    obtain ⟨rest, rfl, hhead, hstop⟩ := typed?_sound h
    obtain ⟨after, rfl, hends⟩ := readEnd?_eq_some_iff.1 hstop
    exact ⟨after, (text_append d after).symm, hhead, hends⟩
  · rintro ⟨after, rfl, h⟩
    rw [text_append]
    exact typed?_append h.head h.terminator.noneAhead
      (readEnd?_eq_some_iff.2 ⟨after, rfl, h.terminator⟩)

/-- **Declarations are read exactly as the grammar has them**, with the same parts. -/
theorem read?_eq_some_iff : k.read? t = some d ↔ Splits k t d := by
  constructor
  · intro h
    -- a method is read with a type, and only where that fails as a constructor
    have hcases : typed? k.readEnd? t = some d ∨ k = method ∧ constructor? t = some d := by
      cases k with
      | property => exact .inl h
      | fieldOrLocal => exact .inl h
      | method =>
        have hmethod : (typed? methodEnd? t <|> constructor? t) = some d := h
        cases htyped : typed? methodEnd? t with
        | some e =>
          rw [htyped] at hmethod
          exact .inl (htyped.trans hmethod)
        | none =>
          rw [htyped] at hmethod
          exact .inr ⟨rfl, hmethod⟩
    rcases hcases with htyped | ⟨rfl, hconstructor⟩
    · obtain ⟨after, rfl, hd⟩ := typed?_eq_some_iff.1 htyped
      exact .typed hd
    · obtain ⟨after, rfl, hd⟩ := constructor?_sound hconstructor
      exact .constructs hd
  · intro h
    cases h with
    | @typed _ _ after hd =>
      have htyped := typed?_eq_some_iff.2 ⟨after, rfl, hd⟩
      cases k with
      | property => exact htyped
      | fieldOrLocal => exact htyped
      | method =>
        show (typed? methodEnd? _ <|> constructor? _) = some d
        -- what has a type is read first
        rw [show typed? methodEnd? _ = some d from htyped]
        rfl
    | constructs hd =>
      -- a constructor is not read with a type, so the second reader has its turn
      show (typed? methodEnd? _ <|> constructor? _) = some d
      rw [typed?_of_constructs hd methodEnd?, constructor?_append hd]
      rfl

/-- **What a rule matches**: where a declaration may begin, the characters of the declaration that
    stands there. -/
theorem matchAt_eq_some_iff : k.recogniser.matchAt t i = some n ↔
    mayDeclareAfter (t.take i).getLast? = true ∧ ∃ d, Splits k (t.drop i) d ∧ d.size = n := by
  have hrecogniser : k.recogniser = declares k.read? := by cases k <;> rfl
  rw [Recogniser.matchAt, hrecogniser, declares]
  split
  · rename_i hmay
    rw [Option.map_eq_some_iff]
    simp only [hmay, true_and, read?_eq_some_iff]
  · rename_i hmay
    simp only [hmay, Bool.false_eq_true, false_and, reduceCtorEq]

end Form

end SourceCensus.Rule
