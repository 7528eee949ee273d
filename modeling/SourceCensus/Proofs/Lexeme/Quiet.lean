import SourceCensus.Proofs.Lexeme.Extent
import SourceCensus.Proofs.Text.Lines
import Mathlib.Data.List.Forall2

/-! # Changes that no reader minds

    A reader that finds nothing in a text looks ahead of the place where it stands: for the quote
    of an opener, or for an apostrophe on the same line. So it goes on finding nothing when
    characters ahead are exchanged for quieter ones (`Quieter`): line feeds stay where they are,
    and no apostrophe or quote comes to stand where there was none.

    The character right ahead matters more than the others, since a backslash or the second
    character of an opener may stand there. It has to stay, or to become a space that no
    apostrophe follows (`SameFront`).

    Two statements follow: where nothing could be read, nothing can be read
    (`read?_cons_of_quieted`), and what was read is read again when only what follows it is quieter
    (`read?_append_of_quieted`).
-/

namespace SourceCensus

open Lexeme (apostrophe quote backslash)

/-- The second character may stand in the place of the first one. -/
structure Quieter (a b : Char) : Prop where
  feed_iff : a = '\n' ↔ b = '\n'
  eq_apostrophe : b = apostrophe → a = apostrophe
  eq_quote : b = quote → a = quote

/-- A text with quieter characters in the place of some of its characters. -/
abbrev Quieted : Text → Text → Prop := List.Forall₂ Quieter

theorem Quieter.refl (c : Char) : Quieter c c := ⟨Iff.rfl, id, id⟩

theorem Quieted.refl (t : Text) : Quieted t t := List.forall₂_same.2 fun c _ => .refl c

/-- One character exchanged for a quieter one. -/
theorem Quieted.set {t : Text} {i : Nat} {b : Char} (h : ∀ a, t[i]? = some a → Quieter a b) :
    Quieted t (t.set i b) := by
  induction t generalizing i with
  | nil => exact .nil
  | cons a t ih =>
    cases i with
    | zero => exact .cons (h a rfl) (Quieted.refl t)
    | succ i => exact .cons (.refl a) (ih h)

/-! ## Lines -/

/-- The line feeds stay where they are. -/
theorem Quieted.breaksFrom {t u : Text} (h : Quieted t u) (offset : Nat) :
    LineIndex.breaksFrom offset u = LineIndex.breaksFrom offset t := by
  induction h generalizing offset with
  | nil => rfl
  | cons hab _ ih => simp only [LineIndex.breaksFrom, ih, hab.feed_iff]

theorem Quieted.lineIndex_eq {t u : Text} (h : Quieted t u) :
    LineIndex.ofText u = LineIndex.ofText t := by
  unfold LineIndex.ofText
  rw [h.breaksFrom]

theorem Quieted.feeds_eq {t u : Text} (h : Quieted t u) : u.feeds = t.feeds := by
  rw [← LineIndex.length_breaksFrom 0 u, h.breaksFrom, LineIndex.length_breaksFrom]

theorem Quieted.countLines_eq {t u : Text} (h : Quieted t u) : u.countLines = t.countLines := by
  have hempty : u.isEmpty = t.isEmpty := by cases h <;> rfl
  unfold Text.countLines
  rw [hempty, h.feeds_eq]

/-! ## What stands right ahead -/

/-- The first characters agree, or the second text begins with a space and no apostrophe after
    it. -/
def SameFront (t u : Text) : Prop :=
  u.head? = t.head? ∨ ∃ w, u = ' ' :: w ∧ w.head? ≠ some apostrophe

theorem SameFront.refl (t : Text) : SameFront t t := .inl rfl

namespace Lexeme

variable {t u rest after after' : Text} {c : Char} {l : Lexeme}

/-! ## What fails goes on failing -/

/-- If no apostrophe can be reached, none can be reached past quieter characters. -/
theorem beforeApostrophe?_of_quieted {n : Nat} (h : Quieted t u)
    (hnone : beforeApostrophe? n t = none) : beforeApostrophe? n u = none := by
  induction h generalizing n with
  | nil => exact hnone
  | @cons a b t u hab _ ih =>
    -- an exchange brings no apostrophe in
    have hb : a ≠ apostrophe → b ≠ apostrophe := fun ha hb => ha (hab.eq_apostrophe hb)
    cases n with
    | zero =>
      have ha : a ≠ apostrophe := by simpa [beforeApostrophe?] using hnone
      simp [beforeApostrophe?, hb ha]
    | succ n =>
      simp only [beforeApostrophe?] at hnone ⊢
      split at hnone
      · cases hnone
      · rename_i ha
        rw [if_neg (hb ha)]
        split at hnone
        · rename_i hfeed
          rw [if_pos (hab.feed_iff.1 hfeed)]
        · rename_i hfeed
          rw [if_neg (fun h => hfeed (hab.feed_iff.2 h)), ih (by simpa using hnone)]
          rfl

/-- A body that could not be read behind its first character is not read there either. -/
theorem charBody?_cons_of_quieted (h : Quieted rest u) (hnone : charBody? (c :: rest) = none) :
    charBody? (c :: u) = none := by
  simp only [charBody?] at hnone ⊢
  split at hnone
  · -- a backslash: the body goes on behind the escaped character
    rename_i hc
    rw [if_pos hc]
    cases h with
    | nil => rfl
    | @cons d e more more' hde hmore =>
      simp only at hnone ⊢
      split at hnone
      · rename_i hd
        rw [if_pos (hde.feed_iff.1 hd)]
      · rename_i hd
        rw [if_neg (fun h => hd (hde.feed_iff.2 h)),
          beforeApostrophe?_of_quieted hmore (by simpa using hnone)]
        rfl
  · rename_i hc
    rw [if_neg hc]
    split at hnone
    · rename_i hstop
      rw [if_pos hstop]
    · rename_i hstop
      -- a plain character: an apostrophe would have to follow
      have hhead : rest.head? ≠ some apostrophe := by
        intro hhead
        simp [hhead] at hnone
      have hhead' : u.head? ≠ some apostrophe := by
        intro hu
        cases h with
        | nil => cases hu
        | @cons d e _ _ hde _ =>
          obtain rfl : e = apostrophe := by simpa using hu
          exact hhead (by rw [hde.eq_apostrophe rfl, List.head?_cons])
      rw [if_neg hstop, if_neg hhead']

theorem charBody?_of_quieted (h : Quieted t u) (hfront : SameFront t u)
    (hnone : charBody? t = none) : charBody? u = none := by
  rcases hfront with hhead | ⟨w, rfl, hw⟩
  · cases h with
    | nil => exact hnone
    | @cons a b rest u _ hrest =>
      obtain rfl : b = a := by simpa using hhead
      exact charBody?_cons_of_quieted hrest hnone
  · -- a space is no backslash, and no apostrophe closes it
    have hspace : ' ' ≠ backslash ∧ ' ' ≠ apostrophe := by decide
    simp [charBody?, hw, hspace]

/-- Past the first character, an opener ahead of the one text is an opener ahead of the other:
    its second character is not a space, and its third one is a quote. -/
theorem prefix_cons_of_quieted {opener : Text} (h : Quieted t u) (hfront : SameFront t u)
    (hmem : opener ∈ basicOpeners ++ verbatimOpeners ++ commentOpeners)
    (hpre : opener <+: c :: u) : opener <+: c :: t := by
  -- the second character can only have become a space
  have hsecond : ∀ {d : Char} {w : Text}, d ≠ ' ' → u = d :: w → ∃ v, t = d :: v := by
    intro d w hd hu
    apply List.head?_eq_some_iff.1
    rcases hfront with hhead | ⟨w', hw', -⟩
    · rw [← hhead, hu, List.head?_cons]
    · rw [hu] at hw'
      exact absurd (List.cons.inj hw').1 hd
  -- a quote further on was a quote before
  have hthird : ∀ {d : Char} {w : Text}, d ≠ ' ' → u = d :: quote :: w →
      ∃ v, t = d :: quote :: v := by
    intro d w hd hu
    obtain ⟨v, rfl⟩ := hsecond hd hu
    subst hu
    obtain ⟨a, v', ha, -, rfl⟩ := List.forall₂_cons_right_iff.1 (List.forall₂_cons.1 h).2
    exact ⟨v', by rw [ha.eq_quote rfl]⟩
  simp only [basicOpeners, verbatimOpeners, commentOpeners, List.cons_append, List.nil_append,
    List.mem_cons, List.not_mem_nil, or_false] at hmem
  obtain ⟨w, hw⟩ := hpre
  rcases hmem with rfl | rfl | rfl | rfl | rfl | rfl | rfl
  -- each opener begins with the character that is the same in both texts
  all_goals
    obtain ⟨rfl, hu⟩ := List.cons.inj hw
    refine List.cons_prefix_cons.2 ⟨rfl, ?_⟩
  · exact List.nil_prefix
  · obtain ⟨v, rfl⟩ := hsecond (by decide) hu.symm
    exact List.prefix_append [quote] v
  · obtain ⟨v, rfl⟩ := hsecond (by decide) hu.symm
    exact List.prefix_append [quote] v
  · obtain ⟨v, rfl⟩ := hthird (by decide) hu.symm
    exact List.prefix_append ['@', quote] v
  · obtain ⟨v, rfl⟩ := hthird (by decide) hu.symm
    exact List.prefix_append ['$', quote] v
  · obtain ⟨v, rfl⟩ := hsecond (by decide) hu.symm
    exact List.prefix_append ['/'] v
  · obtain ⟨v, rfl⟩ := hsecond (by decide) hu.symm
    exact List.prefix_append ['*'] v

/-- Where no literal begins, none begins when quieter characters follow. -/
theorem readLiteral?_cons_of_quieted (h : Quieted t u) (hfront : SameFront t u)
    (hnone : readLiteral? (c :: t) = none) : readLiteral? (c :: u) = none := by
  obtain ⟨hchar, hstring⟩ := readLiteral?_eq_none_iff.1 hnone
  refine readLiteral?_eq_none_iff.2 ⟨?_, ?_⟩
  · simp only [readChar?] at hchar ⊢
    split at hchar
    · rename_i hc
      rw [if_pos hc, charBody?_of_quieted h hfront (by simpa using hchar)]
      rfl
    · rename_i hc
      rw [if_neg hc]
  · rw [readString?_eq_none_iff] at hstring ⊢
    intro opener hmem hpre
    exact hstring opener hmem
      (prefix_cons_of_quieted h hfront (List.mem_append_left _ hmem) hpre)

/-- **Nothing appears.** Where no lexeme begins, none begins when quieter characters follow. -/
theorem read?_cons_of_quieted (h : Quieted t u) (hfront : SameFront t u)
    (hnone : read? (c :: t) = none) : read? (c :: u) = none := by
  obtain ⟨hliteral, hcomment⟩ := read?_eq_none_iff.1 hnone
  refine read?_eq_none_iff.2 ⟨readLiteral?_cons_of_quieted h hfront hliteral, ?_⟩
  rw [readComment?_eq_none_iff] at hcomment ⊢
  intro opener hmem hpre
  exact hcomment opener hmem
    (prefix_cons_of_quieted h hfront (List.mem_append_right _ hmem) hpre)

/-! ## What is read is read again -/

theorem readLiteral?_append_of_quieted (h : readLiteral? (l.text ++ after) = some l)
    (hafter : Quieted after after') : readLiteral? (l.text ++ after') = some l := by
  refine readLiteral?_of_same_end h ?_ ?_
  · rintro rfl
    cases hafter
    rfl
  · intro hq
    cases hafter with
    | nil => exact hq
    | @cons a b _ _ hab _ =>
      obtain rfl : b = quote := by simpa using hq
      rw [hab.eq_quote rfl, List.head?_cons]

theorem readComment?_append_of_quieted (h : readComment? (l.text ++ after) = some l)
    (hafter : Quieted after after') : readComment? (l.text ++ after') = some l := by
  apply readComment?_of_same_end h
  · intro hfeed d hd
    cases hafter with
    | nil => exact hfeed d hd
    | @cons a b _ _ hab _ =>
      obtain rfl : b = d := by simpa using hd
      exact hab.feed_iff.1 (hfeed a rfl)
  · rintro - - rfl
    cases hafter
    rfl

/-- **Nothing changes.** A lexeme is read again when quieter characters follow it. -/
theorem read?_append_of_quieted (h : read? (l.text ++ after) = some l)
    (hafter : Quieted after after') : read? (l.text ++ after') = some l := by
  rcases read?_eq_some_iff.1 h with h | ⟨-, h⟩
  · exact read?_eq_some_iff.2 (.inl (readLiteral?_append_of_quieted h hafter))
  · exact read?_of_readComment? (readComment?_append_of_quieted h hafter)

end Lexeme

end SourceCensus
