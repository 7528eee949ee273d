import SourceCensus.Text.Blank
import Mathlib.Data.List.DropRight

/-! # Texts without blanks at their ends

    A text is `Trimmed` when neither its first nor its last character is white space. Removing the
    white space at both ends makes any text trimmed (`trimmed_stripString`) and leaves a trimmed
    text as it is (`stripString_of_trimmed`), so doing it twice is the same as doing it once.
    The same holds for every class of characters (`trim_clean`, `trim_of_clean`).
-/

namespace SourceCensus.Text

variable {drop : Char → Bool} {t : List Char} {s : String}

/-! ## Any class of characters -/

/-- Neither the first nor the last character belongs to a class. -/
structure Clean (drop : Char → Bool) (t : List Char) : Prop where
  first : ∀ c ∈ t.head?, drop c = false
  last : ∀ c ∈ t.getLast?, drop c = false

/-- Both ends can be looked at, which decides it. -/
theorem clean_iff :
    Clean drop t ↔ t.head?.all (!drop ·) = true ∧ t.getLast?.all (!drop ·) = true := by
  simp only [Option.all_eq_true, Bool.not_eq_true']
  constructor
  · intro h
    exact ⟨h.first, h.last⟩
  · rintro ⟨hfirst, hlast⟩
    exact ⟨hfirst, hlast⟩

instance (drop : Char → Bool) (t : List Char) : Decidable (Clean drop t) :=
  decidable_of_iff _ clean_iff.symm

/-- Trimming takes the class away from both ends. -/
theorem trim_clean (drop : Char → Bool) (t : List Char) : Clean drop (trim drop t) where
  first := by
    intro c hc
    -- what is left on the right is the beginning of what was left on the left
    have hbeginning : trim drop t <+: t.dropWhile drop := List.rdropWhile_prefix drop _
    obtain ⟨rest, hrest⟩ := List.head?_eq_some_iff.1 hc
    obtain ⟨tail, htail⟩ := hbeginning
    have hhead : (t.dropWhile drop).head? = some c := by
      rw [← htail, hrest]
      rfl
    have hnot := List.head?_dropWhile_not drop t
    rwa [hhead] at hnot
  last := by
    intro c hc
    have hne : trim drop t ≠ [] := by
      intro hnil
      rw [hnil] at hc
      cases hc
    have hlast : ¬ drop ((trim drop t).getLast hne) = true := List.rdropWhile_last_not drop _ hne
    rw [List.getLast?_eq_some_getLast hne, Option.mem_some] at hc
    rwa [hc, Bool.not_eq_true] at hlast

/-- A text without the class at its ends stays as it is. -/
theorem trim_of_clean (h : Clean drop t) : trim drop t = t := by
  have hleft : t.dropWhile drop = t := by
    cases t with
    | nil => rfl
    | cons c rest => rw [List.dropWhile_cons_of_neg (by simp [h.first c rfl])]
  have hright : t.rdropWhile drop = t := by
    rw [List.rdropWhile_eq_self_iff]
    intro hne
    simp [h.last _ (List.getLast?_eq_some_getLast hne)]
  show (t.dropWhile drop).rdropWhile drop = t
  rw [hleft, hright]

/-- A text in which the class does not occur at all. -/
theorem clean_of_forall (h : ∀ c ∈ t, drop c = false) : Clean drop t where
  first c hc := h c (List.mem_of_head? hc)
  last c hc := h c (List.mem_of_getLast? hc)

/-! ## White space -/

/-- There is no white space at the ends of a text. -/
def Trimmed (s : String) : Prop := Clean isBlank s.toList

instance (s : String) : Decidable (Trimmed s) :=
  inferInstanceAs (Decidable (Clean isBlank s.toList))

/-- **Stripping makes a text trimmed.** -/
theorem trimmed_stripString (s : String) : Trimmed (stripString s) := by
  unfold Trimmed stripString
  rw [String.toList_ofList]
  exact trim_clean isBlank s.toList

/-- **A trimmed text stays as it is.** -/
theorem stripString_of_trimmed (h : Trimmed s) : stripString s = s := by
  unfold stripString strip
  rw [trim_of_clean h, String.ofList_toList]

/-- A text that says something: trimmed and not empty. -/
structure Bare (s : String) : Prop where
  trimmed : Trimmed s
  nonempty : s ≠ ""

instance (s : String) : Decidable (Bare s) :=
  decidable_of_iff (Trimmed s ∧ s ≠ "") ⟨fun h => ⟨h.1, h.2⟩, fun h => ⟨h.trimmed, h.nonempty⟩⟩

end SourceCensus.Text
