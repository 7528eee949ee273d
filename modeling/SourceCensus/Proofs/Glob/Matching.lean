import SourceCensus.Selection
import Mathlib.Data.List.Infix

/-! # What a glob stands for

    `Stands` says by the characters of a glob which texts it stands for: a star for any text, a
    question mark for any one character, a class for one of its characters, and any other
    character for itself. Reading a glob and matching its parts decides this
    (`accepts_ofText_iff`), so it can be tested.

    A rule of an ignore file asks for less than that the glob stands for the whole name. It holds
    of every name with an ending that the glob stands for (`rule_holds_iff_ending`), so `build`
    excludes `rebuild`, and a rule of nothing but slashes, whose glob is empty, excludes every
    name (`rule_excludes_longer_names`).
-/

namespace SourceCensus

namespace Glob

variable {g t body after name : Text} {ps : Glob} {p : Part} {c : Char}

/-! ## The texts a glob stands for -/

/-- The characters that do not stand for themselves wherever they are. -/
def specials : List Char := ['*', '?', '[']

/-- A glob stands for a text. -/
inductive Stands : Text → Text → Prop
  /-- The empty glob stands for the empty text. -/
  | nil : Stands [] []
  /-- A star stands for any text. -/
  | star {g name : Text} (skipped : Text) (h : Stands g name) : Stands ('*' :: g) (skipped ++ name)
  /-- A question mark stands for any one character. -/
  | question {g name : Text} (c : Char) (h : Stands g name) : Stands ('?' :: g) (c :: name)
  /-- A class stands for one of its characters. -/
  | oneOf {t body after name : Text} {c : Char} (hclass : splitClass? t = some (body, after))
      (hc : (classPart body).holds c = true) (h : Stands after name) :
      Stands ('[' :: t) (c :: name)
  /-- A bracket that no other one closes stands for itself. -/
  | bracket {t name : Text} (hopen : splitClass? t = none) (h : Stands t name) :
      Stands ('[' :: t) ('[' :: name)
  /-- Any other character stands for itself. -/
  | char {g name : Text} {c : Char} (hc : c ∉ specials) (h : Stands g name) :
      Stands (c :: g) (c :: name)

theorem stands_nil_iff : Stands [] name ↔ name = [] := by
  constructor
  · intro h
    cases h
    rfl
  · rintro rfl
    exact .nil

theorem stands_star_iff : Stands ('*' :: g) name ↔ ∃ ending, ending <:+ name ∧ Stands g ending := by
  constructor
  · intro h
    cases h with
    | star skipped h => exact ⟨_, List.suffix_append skipped _, h⟩
    | char hc => exact absurd (by decide) hc
  · intro h
    obtain ⟨ending, ⟨skipped, rfl⟩, h⟩ := h
    exact .star skipped h

/-- A star after a star adds nothing. -/
theorem stands_star_star_iff : Stands ('*' :: '*' :: g) name ↔ Stands ('*' :: g) name := by
  rw [stands_star_iff]
  constructor
  · intro h
    obtain ⟨ending, hending, h⟩ := h
    obtain ⟨last, hlast, h⟩ := stands_star_iff.1 h
    exact stands_star_iff.2 ⟨last, hlast.trans hending, h⟩
  · intro h
    exact ⟨name, List.suffix_rfl, h⟩

theorem stands_question_iff :
    Stands ('?' :: g) name ↔ ∃ c rest, name = c :: rest ∧ Stands g rest := by
  constructor
  · intro h
    cases h with
    | question c h => exact ⟨c, _, rfl, h⟩
    | char hc => exact absurd (by decide) hc
  · rintro ⟨c, rest, rfl, h⟩
    exact .question c h

theorem stands_class_iff (hclass : splitClass? t = some (body, after)) :
    Stands ('[' :: t) name ↔
      ∃ c rest, name = c :: rest ∧ (classPart body).holds c = true ∧ Stands after rest := by
  constructor
  · intro h
    cases h with
    | oneOf hclass' hc h =>
      rw [hclass, Option.some.injEq, Prod.mk.injEq] at hclass'
      obtain ⟨rfl, rfl⟩ := hclass'
      exact ⟨_, _, rfl, hc, h⟩
    | bracket hopen =>
      rw [hclass] at hopen
      cases hopen
    | char hc => exact absurd (by decide) hc
  · rintro ⟨c, rest, rfl, hc, h⟩
    exact .oneOf hclass hc h

theorem stands_bracket_iff (hopen : splitClass? t = none) :
    Stands ('[' :: t) name ↔ ∃ rest, name = '[' :: rest ∧ Stands t rest := by
  constructor
  · intro h
    cases h with
    | oneOf hclass =>
      rw [hopen] at hclass
      cases hclass
    | bracket _ h => exact ⟨_, rfl, h⟩
    | char hc => exact absurd (by decide) hc
  · rintro ⟨rest, rfl, h⟩
    exact .bracket hopen h

theorem stands_char_iff (hc : c ∉ specials) :
    Stands (c :: g) name ↔ ∃ rest, name = c :: rest ∧ Stands g rest := by
  constructor
  · intro h
    cases h with
    | char _ h => exact ⟨_, rfl, h⟩
    | _ => exact absurd (by decide) hc
  · rintro ⟨rest, rfl, h⟩
    exact .char hc h

/-! ## Matching -/

/-- The endings of a name are looked at from the longest one on. -/
theorem someEnding_iff {test : Text → Bool} :
    someEnding test name = true ↔ ∃ ending, ending <:+ name ∧ test ending = true := by
  induction name with
  | nil => simp [someEnding]
  | cons c rest ih =>
    rw [someEnding, Bool.or_eq_true, ih]
    simp only [List.suffix_cons_iff, or_and_right, exists_or, exists_eq_left]

theorem accepts_nil_iff : accepts [] name = true ↔ name = [] := List.isEmpty_iff

theorem accepts_anyText_iff : accepts (.anyText :: ps) name = true ↔
    ∃ ending, ending <:+ name ∧ accepts ps ending = true := by
  rw [accepts]
  exact someEnding_iff

/-- Every part but a star takes exactly one character. -/
theorem accepts_cons_iff (hp : p ≠ .anyText) : accepts (p :: ps) name = true ↔
    ∃ c rest, name = c :: rest ∧ p.holds c = true ∧ accepts ps rest = true := by
  cases name with
  | nil => cases p <;> simp_all [accepts]
  | cons c rest => cases p <;> simp_all [accepts]

/-- A class is read as a part that takes one character. -/
theorem classPart_ne_anyText (body : Text) : classPart body ≠ .anyText := by
  unfold classPart
  dsimp only
  split <;> exact nofun

/-- Behind a class the glob is shorter. -/
theorem length_lt_of_splitClass? (h : splitClass? t = some (body, after)) :
    after.length < t.length := by
  unfold splitClass? at h
  dsimp only at h
  split at h
  · cases h
  · rename_i closing rest hclosing
    cases h
    -- the closing bracket and what follows it are the end of the glob
    have hsuffix : closing :: after <:+ t := by
      rw [← hclosing]
      exact (List.dropWhile_suffix _).trans (List.drop_suffix _ t)
    have hlength := hsuffix.length_le
    rw [List.length_cons] at hlength
    omega

/-- With enough steps a glob is read in full, and its parts stand for what it stands for. -/
theorem accepts_readParts_iff {fuel : Nat} (hfuel : g.length ≤ fuel) :
    accepts (readParts fuel g) name = true ↔ Stands g name := by
  induction fuel generalizing g name with
  | zero =>
    obtain rfl : g = [] := List.eq_nil_of_length_eq_zero (by omega)
    rw [readParts, accepts_nil_iff, stands_nil_iff]
  | succ fuel ih =>
    cases g with
    | nil => rw [readParts, accepts_nil_iff, stands_nil_iff]; exact nofun
    | cons c rest =>
      rw [List.length_cons] at hfuel
      have hrest : ∀ {name}, accepts (readParts fuel rest) name = true ↔ Stands rest name :=
        ih (by omega)
      -- the reader asks for a star, a question mark and a bracket in turn
      rw [readParts]
      by_cases hstar : c = '*'
      · subst hstar
        rw [if_pos rfl]
        by_cases hagain : rest.head? = some '*'
        · -- of two stars the second one is read
          rw [if_pos hagain, hrest]
          obtain ⟨more, rfl⟩ := List.head?_eq_some_iff.1 hagain
          exact stands_star_star_iff.symm
        · rw [if_neg hagain, accepts_anyText_iff, stands_star_iff]
          simp only [hrest]
      · rw [if_neg hstar]
        by_cases hquestion : c = '?'
        · subst hquestion
          rw [if_pos rfl, accepts_cons_iff (show Part.anyChar ≠ .anyText from nofun),
            stands_question_iff]
          simp only [hrest, Part.holds, true_and]
        · rw [if_neg hquestion]
          by_cases hbracket : c = '['
          · subst hbracket
            rw [if_pos rfl]
            cases hclass : splitClass? rest with
            | none =>
              -- a bracket that nothing closes stands for itself
              dsimp only
              rw [accepts_cons_iff (show Part.char '[' ≠ .anyText from nofun),
                stands_bracket_iff hclass]
              simp [hrest, Part.holds]
            | some split =>
              -- a class goes to its closing bracket, and what is left is shorter
              obtain ⟨body, after⟩ := split
              have hshorter := length_lt_of_splitClass? hclass
              have hafter : ∀ {name}, accepts (readParts fuel after) name = true ↔
                  Stands after name := ih (by omega)
              dsimp only
              rw [accepts_cons_iff (classPart_ne_anyText body), stands_class_iff hclass]
              simp only [hafter]
          · -- any other character stands for itself
            have hplain : c ∉ specials := by simp [specials, hstar, hquestion, hbracket]
            rw [if_neg hbracket, accepts_cons_iff (show Part.char c ≠ .anyText from nofun),
              stands_char_iff hplain]
            simp [hrest, Part.holds]

/-- **Matching decides what a glob stands for.** -/
theorem accepts_ofText_iff : accepts (ofText g) name = true ↔ Stands g name :=
  accepts_readParts_iff (Nat.le_refl g.length)

instance (g name : Text) : Decidable (Stands g name) := decidable_of_iff _ accepts_ofText_iff

/-- A search for a glob finds the endings that it stands for. -/
theorem found_ofText_iff :
    found (ofText g) name = true ↔ ∃ ending, ending <:+ name ∧ Stands g ending := by
  unfold found
  rw [someEnding_iff]
  simp only [accepts_ofText_iff]

/-! ## The rules of an ignore file -/

/-- A line without white space around it is a rule: it is not empty, no comment and not negated. -/
def isRule : Text → Bool
  | [] => false
  | c :: _ => !(c = '#' || c = '!')

/-- The globs that an ignore file writes, without the slashes at their ends. -/
def ruleTexts (t : Text) : List Text :=
  ((t.normalizeNewlines.lines.map Text.strip).filter isRule).map (Text.trim (· = '/'))

theorem ofIgnoreFile_eq (t : Text) : ofIgnoreFile t = (ruleTexts t).map ofText := by
  unfold ofIgnoreFile ruleTexts
  rw [List.map_map]
  induction t.normalizeNewlines.lines.map Text.strip with
  | nil => rfl
  | cons line rest ih =>
    rw [List.filterMap_cons, List.filter_cons]
    cases line with
    | nil => exact ih
    | cons c more =>
      by_cases hskipped : (c = '#' || c = '!') = true
      · have hnone : isRule (c :: more) = false := by simp only [isRule, hskipped, Bool.not_true]
        rw [hnone, if_neg Bool.false_ne_true, ← ih]
        simp only [hskipped, if_true]
      · have hsome : isRule (c :: more) = true := by simpa [isRule] using hskipped
        rw [hsome, if_pos rfl, List.map_cons, ← ih]
        simp only [hskipped, Bool.false_eq_true, if_false, Function.comp_apply]

end Glob

open Glob

/-- **A rule of an ignore file holds of every name with an ending that its glob stands for.** The
    rules of a file are the globs of its lines, without white space around them and slashes at
    their ends, comments and negated lines left out. -/
theorem rule_holds_iff_ending (t : Text) :
    ofIgnoreFile t = (ruleTexts t).map ofText ∧
    ∀ (rule : Text) (name : String), NameRule.anyHolds [.glob (ofText rule)] name = true ↔
      ∃ ending, ending <:+ name.toList ∧ Stands rule ending := by
  refine ⟨ofIgnoreFile_eq t, ?_⟩
  intro rule name
  unfold NameRule.anyHolds
  rw [List.any_cons, List.any_nil, Bool.or_false, NameRule.holds, found_ofText_iff]

/-- The rule `build` does not stand for `rebuild`, and the rule `/` stands for no name with a
    character in it, but both exclude such names. -/
theorem rule_excludes_longer_names :
    (ruleTexts "build\n".toList = ["build".toList] ∧ ¬ Stands "build".toList "rebuild".toList ∧
      NameRule.anyHolds ((ofIgnoreFile "build\n".toList).map .glob) "rebuild" = true) ∧
    (ruleTexts "/\n".toList = [[]] ∧ ¬ Stands [] "a".toList ∧
      NameRule.anyHolds ((ofIgnoreFile "/\n".toList).map .glob) "a" = true) := by
  decide +kernel

end SourceCensus
