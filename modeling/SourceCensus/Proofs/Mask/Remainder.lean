import SourceCensus.Proofs.Mask.Stages

/-! # What masking leaves

    A masked text holds the character literals of the text it was made from, at the same offsets,
    and no other lexeme (`all_ofText`). So masking it once more removes nothing, and what still
    looks like a string or a comment in it stands between two apostrophes: a scan leaves no opener
    out, so some lexeme covers it, and all of them are character literals
    (`encloses_of_opener`).
-/

namespace SourceCensus

/-- A character that is not a space shows under a veil only where it stood. -/
theorem Veiled.not_mem {t u : Text} {c : Char} (h : Veiled t u) (hc : c ≠ ' ') (ht : c ∉ t) :
    c ∉ u := by
  induction h with
  | nil => exact ht
  | @cons a b t u hab _ ih =>
    intro hmem
    rcases List.mem_cons.1 hmem with rfl | hmem
    · exact ht (by rw [hab.eq_of_ne_space hc]; exact List.mem_cons_self)
    · exact ih (fun h => ht (List.mem_cons_of_mem a h)) hmem

namespace Lexeme

variable {t opener : Text} {hidden : LexemeKind → Bool} {p : Placed} {i : Nat}

/-- Where nothing is hidden, the text stays as it is. -/
theorem conceal_eq_self (h : ∀ p ∈ all t, hidden p.lexeme.kind = false) :
    conceal hidden t = t := by
  have hnone : ∀ p, p ∈ ([] : List Placed) ↔ p ∈ all t ∧ hidden p.lexeme.kind = true := by
    intro p
    constructor
    · intro hp
      cases hp
    · rintro ⟨hp, hkind⟩
      rw [h p hp] at hkind
      cases hkind
  rw [← blank_eq_conceal hnone]
  rfl

/-! ## Between the apostrophes -/

/-- So many characters from an offset on stand between the delimiters of the lexeme. -/
def Placed.Encloses (p : Placed) (i count : Nat) : Prop :=
  p.bodyStart ≤ i ∧ i + count ≤ p.bodyStart + p.lexeme.body.length

/-- A character literal begins and ends with an apostrophe, and its body is what lies between. -/
theorem charLiteral_in_place (hp : p ∈ all t) (hkind : p.lexeme.kind = .charLiteral) :
    t[p.start]? = some apostrophe ∧
      t[p.bodyStart + p.lexeme.body.length]? = some apostrophe ∧
      p.bodyStart = p.start + 1 ∧ p.stop = p.bodyStart + p.lexeme.body.length + 1 := by
  obtain ⟨before, after, ht, hstart, hread⟩ := exists_append_of_mem_scan hp
  obtain ⟨b, -, -, -, hl⟩ := readChar?_eq_some_iff.1 (readChar?_of_kind hread hkind)
  -- the closer is one apostrophe
  have hstop : p.stop = p.bodyStart + p.lexeme.body.length + 1 := by
    rw [Placed.stop, Placed.bodyStart, size, hl]
    simp only [List.length_singleton]
    omega
  have hopen : p.bodyStart = p.start + 1 := by rw [Placed.bodyStart, hl]; rfl
  -- the text around the literal, with both of its apostrophes
  have htext : t = before ++ apostrophe :: (b ++ apostrophe :: after) := by
    rw [ht, hl]
    simp [text]
  refine ⟨?_, ?_, hopen, hstop⟩
  · rw [htext, hstart, Nat.zero_add, List.getElem?_append_right (Nat.le_refl _), Nat.sub_self]
    rfl
  · have hbody : p.lexeme.body.length = b.length := by rw [hl]
    have hindex : before.length + 1 + b.length - before.length = b.length + 1 := by omega
    rw [htext, hopen, hstart, hbody, Nat.zero_add, List.getElem?_append_right (by omega), hindex,
      List.getElem?_cons_succ, List.getElem?_append_right (Nat.le_refl _), Nat.sub_self]
    rfl

/-- A quote begins a string, and the openers of comments begin comments. -/
theorem read?_opener_append (hmem : opener ∈ [quote] :: commentOpeners) (rest : Text) :
    read? (opener ++ rest) ≠ none := by
  intro hnone
  obtain ⟨hliteral, hcomment⟩ := read?_eq_none_iff.1 hnone
  rcases List.mem_cons.1 hmem with rfl | hmem
  · have hstring := readString?_eq_none_iff.1 (readLiteral?_eq_none_iff.1 hliteral).2
    exact hstring [quote] (by decide) (List.prefix_append ..)
  · exact readComment?_eq_none_iff.1 hcomment opener hmem (List.prefix_append ..)

/-- **In a text of character literals** an opener of another lexeme stands in one of them. -/
theorem encloses_of_opener (hall : ∀ p ∈ all t, p.lexeme.kind = .charLiteral)
    (hopener : apostrophe ∉ opener) (hread : ∀ rest, read? (opener ++ rest) ≠ none)
    (hpre : opener <+: t.drop i) :
    ∃ p ∈ all t, p.lexeme.kind = .charLiteral ∧ p.Encloses i opener.length := by
  obtain ⟨rest, hrest⟩ := hpre
  -- no apostrophe stands where the opener does
  have hget : ∀ k, k < opener.length → t[i + k]? ≠ some apostrophe := by
    intro k hk hmark
    have hdrop : t[i + k]? = opener[k]? := by
      rw [← List.getElem?_drop, ← hrest, List.getElem?_append_left hk]
    rw [hdrop] at hmark
    exact hopener (List.mem_of_getElem? hmark)
  have hne : opener ≠ [] := by
    rintro rfl
    exact hread [] (by rfl)
  have hi : i < t.length := by
    have hlength := congrArg List.length hrest
    have := List.length_pos_iff.2 hne
    rw [List.length_append, List.length_drop] at hlength
    omega
  -- a scan leaves no opener out
  have hcovered : ∃ p ∈ all t, p.Covers i := by
    by_contra hnone
    have huncovered : ∀ p ∈ scanFrom read? 0 t, ¬ p.Covers (0 + i) := by
      intro p hp hcovers
      rw [Nat.zero_add] at hcovers
      exact hnone ⟨p, hp, hcovers⟩
    refine hread rest ?_
    rw [hrest]
    exact read?_of_uncovered hi huncovered
  obtain ⟨p, hp, hstart, hstop⟩ := hcovered
  obtain ⟨hfirst, hlast, hbodyStart, hend⟩ := charLiteral_in_place hp (hall p hp)
  refine ⟨p, hp, hall p hp, ?_, ?_⟩
  · -- the first apostrophe is not the first character of the opener
    have hne : p.start ≠ i := by
      rintro rfl
      exact hget 0 (List.length_pos_iff.2 hne) (by rw [Nat.add_zero, hfirst])
    omega
  · -- otherwise the last apostrophe would stand in the opener
    by_contra hlong
    have hk : p.bodyStart + p.lexeme.body.length - i < opener.length := by omega
    refine hget _ hk ?_
    have hindex : i + (p.bodyStart + p.lexeme.body.length - i) =
        p.bodyStart + p.lexeme.body.length := by omega
    rw [hindex, hlast]

end Lexeme

/-! ## Masking once more -/

namespace Masked

open Lexeme

/-- The lexemes of a masked text are the character literals of the text. -/
theorem all_ofText (t : Text) :
    all (ofText t).text =
      (all t.normalizeNewlines).filter fun p => p.lexeme.kind = .charLiteral := by
  rw [text_ofText, all, scanFrom_conceal]
  simp only [ne_eq, decide_not, Bool.not_not]
  rfl

/-- A masked text has no line endings to normalize. -/
theorem normalizeNewlines_ofText (t : Text) :
    (ofText t).text.normalizeNewlines = (ofText t).text :=
  Text.normalizeNewlines_of_not_mem
    ((veiled_ofText t).not_mem (by decide) (Text.not_mem_normalizeNewlines t))

theorem kind_of_mem_all_ofText {t : Text} {p : Placed} (hp : p ∈ all (ofText t).text) :
    p.lexeme.kind = .charLiteral := by
  rw [all_ofText] at hp
  simpa using (List.mem_filter.1 hp).2

/-- **Masking twice is masking once,** and the second time it has nothing to report. -/
theorem ofText_ofText (t : Text) : ofText (ofText t).text = ⟨(ofText t).text, []⟩ := by
  have htext : (ofText (ofText t).text).text = (ofText t).text := by
    rw [text_ofText (ofText t).text, normalizeNewlines_ofText]
    apply conceal_eq_self
    intro p hp
    rw [kind_of_mem_all_ofText hp]
    rfl
  have htokens : (ofText (ofText t).text).tokens = [] := by
    have hnone : ∀ kind : LexemeKind, kind ≠ .charLiteral →
        (all (ofText t).text).filter (fun p => p.lexeme.kind = kind) = [] := by
      intro kind hkind
      rw [List.filter_eq_nil_iff]
      intro p hp
      rw [kind_of_mem_all_ofText hp]
      simpa using Ne.symm hkind
    rw [tokens_ofText (ofText t).text, normalizeNewlines_ofText, hnone .comment (by decide),
      hnone .stringLiteral (by decide)]
    rfl
  calc ofText (ofText t).text
      = ⟨(ofText (ofText t).text).text, (ofText (ofText t).text).tokens⟩ := rfl
    _ = ⟨(ofText t).text, []⟩ := by rw [htext, htokens]

/-- **Masking leaves nothing to mask.** A second masking returns the same text and no token; the
    masked text has the character literals that there were, and no other lexeme; and a quote, two
    slashes or a slash and a star in it stand between the apostrophes of one of them. -/
theorem masking_leaves_no_lexeme (t : Text) :
    ofText (ofText t).text = ⟨(ofText t).text, []⟩ ∧
    all (ofText t).text =
      (all t.normalizeNewlines).filter (fun p => p.lexeme.kind = .charLiteral) ∧
    ∀ opener ∈ [quote] :: commentOpeners, ∀ i, opener <+: (ofText t).text.drop i →
      ∃ p ∈ all (ofText t).text, p.lexeme.kind = .charLiteral ∧ p.Encloses i opener.length := by
  refine ⟨ofText_ofText t, all_ofText t, ?_⟩
  intro opener hmem i hpre
  have hopener : apostrophe ∉ opener := by
    have hdecide : ∀ o ∈ [quote] :: commentOpeners, apostrophe ∉ o := by decide
    exact hdecide opener hmem
  exact encloses_of_opener (fun p => kind_of_mem_all_ofText) hopener
    (read?_opener_append hmem) hpre

end Masked

end SourceCensus
