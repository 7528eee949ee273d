import SourceCensus.Proofs.Lexeme.Quiet
import SourceCensus.Proofs.Lexeme.Scan

/-! # Edits inside a lexeme

    A character in the body of a comment or a string may be exchanged for another one without any
    reader noticing, as long as neither of the two could end the lexeme or take part in its end.
    Each body reader then reads the edited body from the edited text (`basicBody_set` and its
    siblings), so the lexeme is read again with the one character exchanged (`read?_set`).

    The scan before the lexeme looks ahead into it, and the new character is quieter than the old
    one there. So a scan of the edited text finds the lexemes it found before, one of them edited
    (`scanFrom_set`).
-/

namespace SourceCensus.Lexeme

variable {t after : Text} {c x : Char} {j : Nat} {l : Lexeme}

/-! ## Bodies -/

/-- The body of a basic string ends where it did: the edit neither hides its end nor makes one. -/
theorem basicBody_set (hj : j < (basicBody t).length) (hx : (basicBody t)[j]? ≠ some backslash)
    (hquote : c ≠ quote) (hback : c ≠ backslash) :
    basicBody (t.set j c) = (basicBody t).set j c := by
  fun_induction basicBody t generalizing j with
  | case1 => cases hj
  | case2 => cases hj
  | case3 d hd =>
    obtain rfl : j = 0 := by simpa using hj
    simp [basicBody, hquote]
  | case4 => cases hj
  | case5 d rest hq ih =>
    -- the character behind a backslash may be any
    rcases j with _ | _ | j
    · exact absurd rfl hx
    · simp [basicBody, hq]
    · simp [basicBody, hq, ih (by simpa using hj) (by simpa using hx)]
  | case6 a d rest hq hb ih =>
    -- a first character that is edited is no quote and no backslash, before and after
    rcases j with _ | _ | j
    · simp [basicBody, hquote, hback]
    · have ih := ih (j := 0) (by simpa using hj) (by simpa using hx)
      simpa [basicBody, hq, hb] using ih
    · have ih := ih (j := j + 1) (Nat.lt_of_succ_lt_succ hj) (by simpa using hx)
      simpa [basicBody, hq, hb] using ih

/-- The same of a verbatim string, in which no quote may be exchanged, since it may be half of a
    doubled one. -/
theorem verbatimBody_set (hj : j < (verbatimBody t).length) (hx : (verbatimBody t)[j]? ≠ some quote)
    (hquote : c ≠ quote) : verbatimBody (t.set j c) = (verbatimBody t).set j c := by
  fun_induction verbatimBody t generalizing j with
  | case1 => cases hj
  | case2 => cases hj
  | case3 d hd =>
    obtain rfl : j = 0 := by simpa using hj
    simp [verbatimBody, hquote]
  | case4 rest ih =>
    -- both halves of a doubled quote are quotes
    rcases j with _ | _ | j
    · exact absurd rfl hx
    · exact absurd rfl hx
    · simp [verbatimBody, ih (by simpa using hj) (by simpa using hx)]
  | case5 => cases hj
  | case6 a d rest hq ih =>
    -- the first character is edited, or one behind it
    rcases j with _ | _ | j
    · simp [verbatimBody, hquote]
    · have ih := ih (j := 0) (by simpa using hj) (by simpa using hx)
      simpa [verbatimBody, hq] using ih
    · have ih := ih (j := j + 1) (Nat.lt_of_succ_lt_succ hj) (by simpa using hx)
      simpa [verbatimBody, hq] using ih

/-- A block comment ends where it did, even when a star or a slash is exchanged. -/
theorem BlockBody.set {b : Text} (h : BlockBody b) (hstar : c ≠ '*') (hslash : c ≠ '/') (j : Nat) :
    BlockBody (b.set j c) := by
  induction b generalizing j with
  | nil => exact h
  | cons d b ih =>
    obtain ⟨hfront, hrest⟩ := blockBody_cons_iff.1 h
    cases j with
    | zero => exact blockBody_cons_iff.2 ⟨fun hpair => hstar hpair.1, hrest⟩
    | succ j =>
      refine blockBody_cons_iff.2 ⟨?_, ih hrest j⟩
      rintro ⟨hd, hhead⟩
      -- the slash is no edited character, so it stood there before
      cases b with
      | nil => cases hhead
      | cons e b =>
        cases j with
        | zero => exact hslash (Option.some.inj hhead)
        | succ j => exact hfront ⟨hd, hhead⟩

/-! ## Lexemes -/

/-- The lexeme with one character of its body exchanged. -/
def setBody (l : Lexeme) (j : Nat) (c : Char) : Lexeme := { l with body := l.body.set j c }

@[simp] theorem size_setBody (l : Lexeme) (j : Nat) (c : Char) : (l.setBody j c).size = l.size := by
  simp only [setBody, size, List.length_set]

/-- Behind its end a body has no character to exchange. -/
theorem setBody_of_length_le (h : l.body.length ≤ j) : l.setBody j c = l := by
  rw [setBody, List.set_eq_of_length_le h]

/-- An edit behind an opener. -/
theorem set_append_length_add (opener rest : Text) (j : Nat) (c : Char) :
    (opener ++ rest).set (opener.length + j) c = opener ++ rest.set j c := by
  rw [List.set_append_right _ _ (Nat.le_add_right _ _), Nat.add_sub_cancel_left]

/-- The edited lexeme stands where the edited text has it. -/
theorem text_setBody (hj : j < l.body.length) (after : Text) :
    (l.setBody j c).text ++ after = (l.text ++ after).set (l.opener.length + j) c := by
  simp only [text, setBody, List.append_assoc]
  rw [set_append_length_add, List.set_append_left _ _ hj]

/-- The characters of a body, as characters of a text that the lexeme begins. -/
theorem getElem?_text_append (hj : j < l.body.length) (after : Text) :
    (l.text ++ after)[l.opener.length + j]? = l.body[j]? := by
  simp only [text, List.append_assoc]
  rw [List.getElem?_append_right (Nat.le_add_right _ _), Nat.add_sub_cancel_left,
    List.getElem?_append_left hj]

theorem ofStringBody_set {opener body rest : Text} (hj : j < body.length) :
    ofStringBody opener (body.set j c) (rest.set j c) =
      (ofStringBody opener body rest).setBody j c := by
  simp only [ofStringBody, setBody, List.length_set, List.drop_set_of_lt hj]

/-- **A string is read again** when a character of its body is exchanged, unless one of the two
    is a quote or a backslash. -/
theorem readString?_set (h : readString? t = some l) (hj : j < l.body.length)
    (hx : l.body[j]? ≠ some quote ∧ l.body[j]? ≠ some backslash) (hquote : c ≠ quote)
    (hback : c ≠ backslash) :
    readString? (t.set (l.opener.length + j) c) = some (l.setBody j c) := by
  apply readString?_of_stringAt
  cases stringAt_of_readString? h with
  | @basic opener rest hmem =>
    have hj : j < (basicBody rest).length := hj
    have hbody := basicBody_set (c := c) hj hx.2 hquote hback
    have hedit : StringAt (opener ++ rest.set j c) _ := .basic hmem
    rw [hbody, ofStringBody_set hj, ← set_append_length_add] at hedit
    exact hedit
  | @verbatim opener rest hmem =>
    have hj : j < (verbatimBody rest).length := hj
    have hbody := verbatimBody_set (c := c) hj hx.1 hquote
    have hedit : StringAt (opener ++ rest.set j c) _ := .verbatim hmem
    rw [hbody, ofStringBody_set hj, ← set_append_length_add] at hedit
    exact hedit

/-- **A comment is read again** when a character of its body is exchanged for one that is no line
    feed and neither a star nor a slash. -/
theorem readComment?_set (h : readComment? t = some l) (hj : j < l.body.length)
    (hfeed : c ≠ '\n') (hstar : c ≠ '*') (hslash : c ≠ '/') :
    readComment? (t.set (l.opener.length + j) c) = some (l.setBody j c) := by
  apply readComment?_of_commentAt
  cases commentAt_of_readComment? h with
  | @line body after hbody hafter =>
    have hline : CommentAt ('/' :: '/' :: (body.set j c ++ after))
        ⟨.comment, ['/', '/'], body.set j c, []⟩ := by
      refine .line ?_ hafter
      -- the line does not end earlier, since what comes in is no line feed
      intro hmem
      rcases List.mem_or_eq_of_mem_set hmem with hmem | heq
      · exact hbody hmem
      · exact hfeed heq.symm
    have hset := set_append_length_add ['/', '/'] (body ++ after) j c
    rw [List.set_append_left _ _ hj] at hset
    exact hset ▸ hline
  | @block body after hbody =>
    -- nothing that comes in makes a star and a slash
    have hblock : CommentAt ('/' :: '*' :: (body.set j c ++ '*' :: '/' :: after)) _ :=
      .block (hbody.set hstar hslash j)
    have hset := set_append_length_add ['/', '*'] (body ++ '*' :: '/' :: after) j c
    rw [List.set_append_left _ _ hj] at hset
    exact hset ▸ hblock
  | @openBlock body hbody =>
    have hopen : CommentAt ('/' :: '*' :: body.set j c) _ := .openBlock (hbody.set hstar hslash j)
    have hset := set_append_length_add ['/', '*'] body j c
    exact hset ▸ hopen

/-- The characters that may take part in the end of a lexeme or of a line. -/
def endingMarks : Text := ['\n', '\r', apostrophe, quote, backslash, '*', '/']

theorem quieter_of_not_mem_endingMarks (hx : x ≠ '\n') (hc : c ∉ endingMarks) : Quieter x c := by
  simp only [endingMarks, List.mem_cons, List.not_mem_nil, or_false, not_or] at hc
  obtain ⟨hfeed, -, hchar, hquote, -⟩ := hc
  exact ⟨iff_of_false hx hfeed, fun h => absurd h hchar, fun h => absurd h hquote⟩

/-- A character that is no line feed may be exchanged without a reader ahead noticing. -/
theorem quieted_set (hfeed : t[j]? ≠ some '\n') (hc : c ∉ endingMarks) :
    Quieted t (t.set j c) := by
  apply Quieted.set
  intro a ha
  apply quieter_of_not_mem_endingMarks _ hc
  rintro rfl
  exact hfeed ha

/-- **A comment or a string is read again** when a character of its body is exchanged. -/
theorem read?_set (h : read? t = some l) (hkind : l.kind ≠ .charLiteral) (hj : j < l.body.length)
    (hstring : l.kind = .stringLiteral →
      l.body[j]? ≠ some quote ∧ l.body[j]? ≠ some backslash)
    (hc : c ∉ endingMarks) : read? (t.set (l.opener.length + j) c) = some (l.setBody j c) := by
  simp only [endingMarks, List.mem_cons, List.not_mem_nil, or_false, not_or] at hc
  obtain ⟨hfeed, -, -, hquote, hback, hstar, hslash⟩ := hc
  cases hl : l.kind with
  | charLiteral => exact absurd hl hkind
  | stringLiteral =>
    have hread := readString?_set (readString?_of_kind h hl) hj (hstring hl) hquote hback
    exact read?_of_readString? hread
  | comment =>
    have hread := readComment?_set (readComment?_of_kind h hl) hj hfeed hstar hslash
    exact read?_of_readComment? hread

/-! ## Scans -/

namespace Placed

/-- The lexeme with the character at an offset exchanged, if that lies in its body. -/
def edit (i : Nat) (c : Char) (p : Placed) : Placed :=
  if p.bodyStart ≤ i then { p with lexeme := p.lexeme.setBody (i - p.bodyStart) c } else p

variable {p : Placed} {i : Nat}

theorem edit_of_lt_bodyStart (h : i < p.bodyStart) : p.edit i c = p := by
  unfold edit
  rw [if_neg (Nat.not_le_of_lt h)]

theorem edit_of_stop_le (h : p.stop ≤ i) : p.edit i c = p := by
  unfold edit
  have hbody : p.lexeme.body.length ≤ i - p.bodyStart := by
    unfold stop Lexeme.size at h
    unfold bodyStart
    omega
  rw [setBody_of_length_le hbody, ite_self]

theorem edit_front (offset : Nat) (l : Lexeme) (j : Nat) (c : Char) :
    edit (offset + (l.opener.length + j)) c ⟨offset, l⟩ = ⟨offset, l.setBody j c⟩ := by
  have hfrom : offset + l.opener.length ≤ offset + (l.opener.length + j) := by omega
  have hplace : offset + (l.opener.length + j) - (offset + l.opener.length) = j := by omega
  simp only [edit, bodyStart, if_pos hfrom, hplace]

@[simp] theorem edit_start (i : Nat) (c : Char) (p : Placed) : (p.edit i c).start = p.start := by
  unfold edit
  split <;> rfl

@[simp] theorem edit_kind (i : Nat) (c : Char) (p : Placed) :
    (p.edit i c).lexeme.kind = p.lexeme.kind := by
  unfold edit
  split <;> rfl

@[simp] theorem edit_size (i : Nat) (c : Char) (p : Placed) :
    (p.edit i c).lexeme.size = p.lexeme.size := by
  unfold edit
  split
  · exact size_setBody _ _ _
  · rfl

@[simp] theorem edit_bodyStart (i : Nat) (c : Char) (p : Placed) :
    (p.edit i c).bodyStart = p.bodyStart := by
  unfold edit
  split <;> rfl

theorem edit_covers_iff {k : Nat} : (p.edit i c).Covers k ↔ p.Covers k := by
  unfold Covers stop
  rw [edit_start, edit_size]

end Placed

variable {p : Placed} {offset i : Nat}

/-- An opener stands before the body. -/
theorem start_lt_bodyStart_of_mem_scan (h : p ∈ scanFrom read? offset t) :
    p.start < p.bodyStart := by
  obtain ⟨before, after, -, -, hread⟩ := exists_append_of_mem_scan h
  have hopener := List.length_pos_iff.2 (opener_ne_nil_of_read? hread)
  unfold Placed.bodyStart
  omega

/-- The characters of a body are characters of the text. -/
theorem getElem?_of_mem_all (h : p ∈ all t) (hx : p.lexeme.body[j]? = some x) :
    t[p.bodyStart + j]? = some x := by
  obtain ⟨before, after, rfl, hstart, -⟩ := exists_append_of_mem_scan h
  have hj : j < p.lexeme.body.length := (List.getElem?_eq_some_iff.1 hx).1
  have hplace : p.bodyStart + j = before.length + (p.lexeme.opener.length + j) := by
    unfold Placed.bodyStart
    omega
  rw [hplace, List.getElem?_append_right (Nat.le_add_right _ _), Nat.add_sub_cancel_left,
    getElem?_text_append hj, hx]

/-- The lexeme that begins a text is taken with its edit, and the scan goes on where it did. -/
theorem scanFrom_set_front (hpos : 0 < l.size) (h : read? (l.text ++ after) = some l)
    (hkind : l.kind ≠ .charLiteral) (hj : j < l.body.length)
    (hstring : l.kind = .stringLiteral →
      l.body[j]? ≠ some quote ∧ l.body[j]? ≠ some backslash)
    (hc : c ∉ endingMarks) :
    scanFrom read? offset ((l.text ++ after).set (l.opener.length + j) c) =
      ⟨offset, l.setBody j c⟩ :: scanFrom read? (offset + l.size) after := by
  have hagain := read?_set h hkind hj hstring hc
  rw [← text_setBody hj] at hagain ⊢
  rw [← size_setBody l j c] at hpos ⊢
  exact scanFrom_of_some _ hpos hagain

/-- Lexemes behind the edit are left alone. -/
theorem map_edit_of_lt (h : i < offset) :
    (scanFrom read? offset t).map (Placed.edit i c) = scanFrom read? offset t := by
  refine (List.map_congr_left fun p hp => ?_).trans (List.map_id _)
  have hstart := le_start_of_mem_scan hp
  apply Placed.edit_of_lt_bodyStart
  unfold Placed.bodyStart
  omega

/-- **A scan of the edited text** finds the lexemes it found before, one of them edited. -/
theorem scanFrom_set (hp : p ∈ scanFrom read? offset t) (hkind : p.lexeme.kind ≠ .charLiteral)
    (hfrom : p.bodyStart ≤ offset + j) (hto : offset + j < p.bodyStart + p.lexeme.body.length)
    (hfeed : t[j]? ≠ some '\n')
    (hstring : p.lexeme.kind = .stringLiteral → t[j]? ≠ some quote ∧ t[j]? ≠ some backslash)
    (hc : c ∉ endingMarks) :
    scanFrom read? offset (t.set j c) =
      (scanFrom read? offset t).map (Placed.edit (offset + j) c) := by
  induction offset, t using scan_induction generalizing j with
  | nil offset => cases hp
  | skip offset a rest hread ih =>
    -- the body begins two characters on at the least, so the one right ahead is not edited
    have hstart := le_start_of_mem_scan hp
    have hopener := start_lt_bodyStart_of_mem_scan hp
    obtain ⟨k, rfl⟩ : ∃ k, j = k + 2 := ⟨j - 2, by omega⟩
    -- what follows is quieter than before, so there still is no lexeme here
    have hquiet : Quieted rest (rest.set (k + 1) c) := quieted_set hfeed hc
    have hfront : SameFront rest (rest.set (k + 1) c) := by
      left
      cases rest <;> rfl
    have hnone : read? (a :: rest.set (k + 1) c) = none := read?_cons_of_quieted hquiet hfront hread
    have hplace : offset + (k + 2) = offset + 1 + (k + 1) := by omega
    rw [hplace] at hfrom hto ⊢
    show scanFrom read? offset (a :: rest.set (k + 1) c) = _
    rw [scanFrom_of_none _ hnone, ih hp hfrom hto hfeed hstring]
  | take offset l after hpos hread ih =>
    rcases List.mem_cons.1 hp with rfl | hp
    · -- the lexeme that is edited; those behind it are left alone
      have hbody : offset + l.opener.length ≤ offset + j := hfrom
      have hend : offset + j < offset + l.opener.length + l.body.length := hto
      obtain ⟨k, rfl⟩ : ∃ k, j = l.opener.length + k := ⟨j - l.opener.length, by omega⟩
      have hk : k < l.body.length := by omega
      have hbehind : offset + (l.opener.length + k) < offset + l.size := by
        unfold size
        omega
      rw [getElem?_text_append hk] at hstring
      rw [scanFrom_set_front hpos hread hkind hk hstring hc, List.map_cons, Placed.edit_front,
        map_edit_of_lt hbehind]
    · -- a lexeme behind the first one, which is read again
      have hstart := le_start_of_mem_scan hp
      have hopener := start_lt_bodyStart_of_mem_scan hp
      obtain ⟨k, rfl⟩ : ∃ k, j = l.size + k := ⟨j - l.size, by omega⟩
      have hplace : offset + (l.size + k) = offset + l.size + k := by omega
      have hset : (l.text ++ after).set (l.size + k) c = l.text ++ after.set k c := by
        rw [← length_text, set_append_length_add]
      have hsame : (l.text ++ after)[l.size + k]? = after[k]? := by
        rw [← length_text, List.getElem?_append_right (Nat.le_add_right _ _),
          Nat.add_sub_cancel_left]
      rw [hsame] at hfeed hstring
      have hagain := read?_append_of_quieted hread (quieted_set hfeed hc)
      rw [hplace] at hfrom hto ⊢
      rw [hset, scanFrom_of_some _ hpos hagain, ih hp hfrom hto hfeed hstring, List.map_cons,
        Placed.edit_of_stop_le]
      show offset + l.size ≤ _
      omega

end SourceCensus.Lexeme
