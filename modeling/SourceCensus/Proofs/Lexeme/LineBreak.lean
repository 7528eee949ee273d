import SourceCensus.Proofs.Lexeme.Scan

/-! # Lexemes and line breaks

    Two texts with a line feed between them are scanned one after the other: the lexemes of the
    first come first, and those of the second follow with their offsets moved
    (`scanFrom_append_feed`). This holds whenever the strings and the block comments of the first
    text are closed (`Terminated`). An open one would run on into the second text.

    To a reader near the end of the first text the line feed looks like the end of the text:

    - what is not read there is not read either when a line feed and any text follow, since no
      opener and no character literal has a line feed in it (`read?_append_feed_eq_none`);
    - what is read there is read again, since a line comment ends in front of the line feed and
      a line feed is no quote (`read?_append_feed`).
-/

namespace SourceCensus.Lexeme

variable {t b w after : Text} {l : Lexeme}

/-! ## Where nothing is read -/

/-- What has no line feed in it begins a text as soon as it begins the text up to a line feed. -/
theorem prefix_of_append_feed {u : Text} (hw : '\n' ∉ w) (h : w <+: t ++ '\n' :: u) : w <+: t := by
  induction w generalizing t with
  | nil => exact List.nil_prefix
  | cons c w ih =>
    rw [List.mem_cons, not_or] at hw
    cases t with
    | nil => exact absurd (List.cons_prefix_cons.1 h).1.symm hw.1
    | cons d t =>
      obtain ⟨rfl, htail⟩ := List.cons_prefix_cons.1 h
      exact List.cons_prefix_cons.2 ⟨rfl, ih hw.2 htail⟩

/-- A character literal never crosses a line. -/
theorem CharBody.feed_not_mem (h : CharBody b) : '\n' ∉ b := by
  have hbackslash : '\n' ≠ backslash := by decide
  cases h with
  | plain hb ha hf => simpa using hf.symm
  | escape hd hlen htail =>
    simp only [List.mem_cons, not_or]
    exact ⟨hbackslash, hd.symm, fun hmem => (htail '\n' hmem).2 rfl⟩

theorem readChar?_append_feed_eq_none (h : readChar? t = none) (u : Text) :
    readChar? (t ++ '\n' :: u) = none := by
  apply Option.eq_none_iff_forall_ne_some.2
  intro l hread
  obtain ⟨b, after, hbody, heq, -⟩ := readChar?_eq_some_iff.1 hread
  -- the whole literal stands in front of the line feed, so it was read before
  have hpre : apostrophe :: (b ++ [apostrophe]) <+: t ++ '\n' :: u := ⟨after, by simp [heq]⟩
  have hfeed : '\n' ∉ apostrophe :: (b ++ [apostrophe]) := by
    have hne : '\n' ≠ apostrophe := by decide
    simp [hne, hbody.feed_not_mem]
  obtain ⟨rest, hrest⟩ := prefix_of_append_feed hfeed hpre
  have hbefore : t = apostrophe :: (b ++ apostrophe :: rest) := by simpa using hrest.symm
  have hsome := readChar?_eq_some_iff.2 ⟨b, rest, hbody, hbefore, rfl⟩
  rw [h] at hsome
  cases hsome

/-- **No lexeme appears** where none is read, when a line feed and any text follow. -/
theorem read?_append_feed_eq_none (h : read? t = none) (u : Text) :
    read? (t ++ '\n' :: u) = none := by
  obtain ⟨hliteral, hcomment⟩ := read?_eq_none_iff.1 h
  obtain ⟨hchar, hstring⟩ := readLiteral?_eq_none_iff.1 hliteral
  have hopeners : ∀ opener ∈ basicOpeners ++ verbatimOpeners ++ commentOpeners, '\n' ∉ opener := by
    decide
  rw [readString?_eq_none_iff] at hstring
  rw [readComment?_eq_none_iff] at hcomment
  apply read?_eq_none_iff.2
  constructor
  · apply readLiteral?_eq_none_iff.2
    refine ⟨readChar?_append_feed_eq_none hchar u, ?_⟩
    rw [readString?_eq_none_iff]
    intro opener hmem hpre
    have hfeed := hopeners opener (List.mem_append_left _ hmem)
    exact hstring opener hmem (prefix_of_append_feed hfeed hpre)
  · rw [readComment?_eq_none_iff]
    intro opener hmem hpre
    have hfeed := hopeners opener (List.mem_append_right _ hmem)
    exact hcomment opener hmem (prefix_of_append_feed hfeed hpre)

/-! ## What is read is read again -/

/-- A string literal or a block comment has its closing delimiter. -/
def Terminated (l : Lexeme) : Prop :=
  l.kind = .stringLiteral ∨ l.opener = ['/', '*'] → l.closer ≠ []

instance (l : Lexeme) : Decidable l.Terminated :=
  inferInstanceAs (Decidable (l.kind = .stringLiteral ∨ l.opener = ['/', '*'] → l.closer ≠ []))

theorem readLiteral?_append_feed (h : readLiteral? (l.text ++ after) = some l)
    (hterminated : l.Terminated) (u : Text) :
    readLiteral? (l.text ++ (after ++ '\n' :: u)) = some l := by
  have hclosed : l.closer ≠ [] := by
    rcases readLiteral?_eq_some_iff.1 h with hchar | ⟨-, hstring⟩
    · -- a character literal is always closed
      obtain ⟨b, rest, -, -, rfl⟩ := readChar?_eq_some_iff.1 hchar
      exact List.cons_ne_nil _ _
    · exact hterminated (.inl (stringLiteral_of_readString? hstring).1)
  apply readLiteral?_of_closed h hclosed
  intro hquote
  cases after with
  | nil =>
    have hne : '\n' ≠ quote := by decide
    exact absurd (Option.some.inj hquote) hne
  | cons c after => exact hquote

theorem readComment?_append_feed (h : readComment? (l.text ++ after) = some l)
    (hterminated : l.Terminated) (u : Text) :
    readComment? (l.text ++ (after ++ '\n' :: u)) = some l := by
  apply readComment?_of_same_end h
  · intro hline c hc
    cases after with
    | nil => exact (Option.some.inj hc).symm
    | cons d after => exact hline c hc
  · intro hblock hopen
    exact absurd hopen (hterminated (.inr hblock))

/-- **No lexeme changes** that is closed, when a line feed and any text follow. -/
theorem read?_append_feed (h : read? (l.text ++ after) = some l) (hterminated : l.Terminated)
    (u : Text) : read? (l.text ++ (after ++ '\n' :: u)) = some l := by
  rcases read?_eq_some_iff.1 h with h | ⟨-, h⟩
  · exact read?_eq_some_iff.2 (.inl (readLiteral?_append_feed h hterminated u))
  · exact read?_of_readComment? (readComment?_append_feed h hterminated u)

/-! ## Scans of joined texts -/

/-- The same lexeme so many characters further on. -/
def Placed.moved (n : Nat) (p : Placed) : Placed := { p with start := n + p.start }

/-- A scan that begins further on finds the same lexemes further on. -/
theorem scanFrom_add (n offset : Nat) (t : Text) :
    scanFrom read? (n + offset) t = (scanFrom read? offset t).map (Placed.moved n) := by
  induction offset, t using scan_induction with
  | nil offset => rw [scanFrom, List.map_nil]
  | skip offset c rest hread ih =>
    rw [scanFrom_of_none _ hread, Nat.add_assoc]
    exact ih
  | take offset l after hpos hread ih =>
    rw [scanFrom_of_some _ hpos hread, List.map_cons, Nat.add_assoc, ih]
    rfl

/-- **Joined texts are scanned one after the other** if all is closed in the first. -/
theorem scanFrom_append_feed (offset : Nat) (t u : Text)
    (hterminated : ∀ p ∈ scanFrom read? offset t, p.lexeme.Terminated) :
    scanFrom read? offset (t ++ '\n' :: u) =
      scanFrom read? offset t ++ scanFrom read? (offset + t.length + 1) u := by
  induction offset, t using scan_induction with
  | nil offset =>
    have hfeed : read? ([] ++ '\n' :: u) = none := read?_append_feed_eq_none rfl u
    rw [List.nil_append] at hfeed ⊢
    rw [scanFrom_of_none _ hfeed]
    rfl
  | skip offset c rest hread ih =>
    have hnone := read?_append_feed_eq_none hread u
    rw [List.cons_append] at hnone ⊢
    rw [scanFrom_of_none _ hnone, ih hterminated, List.length_cons, Nat.add_right_comm offset 1,
      Nat.add_assoc offset rest.length 1]
  | take offset l after hpos hread ih =>
    have hl := hterminated ⟨offset, l⟩ List.mem_cons_self
    have hrest := ih fun p hp => hterminated p (List.mem_cons_of_mem _ hp)
    rw [List.append_assoc, scanFrom_of_some _ hpos (read?_append_feed hread hl u), hrest,
      List.length_append, length_text, List.cons_append, Nat.add_assoc offset l.size]

/-- The lexemes of the joined texts. -/
theorem all_append_feed (t u : Text) (hterminated : ∀ p ∈ all t, p.lexeme.Terminated) :
    all (t ++ '\n' :: u) = all t ++ (all u).map (Placed.moved (t.length + 1)) := by
  have hscan := scanFrom_append_feed 0 t u hterminated
  rw [Nat.zero_add] at hscan
  rw [all, hscan, ← Nat.add_zero (t.length + 1), scanFrom_add]
  rfl

end SourceCensus.Lexeme
