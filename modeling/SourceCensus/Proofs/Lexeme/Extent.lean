import SourceCensus.Lexeme

/-! # Where a lexeme ends

    The readers of `SourceCensus.Lexeme` take a lexeme from the front of a text. This file
    says what they take and how much of the text they look at to decide it:

    - a lexeme is a non-empty prefix of the text (`text_prefix_of_read?`), so that the text
      is the lexeme and what follows it;
    - the bodies that a closing delimiter ends are described by `CharBody`, `BasicBody`,
      `VerbatimBody` and `BlockBody`, and a body of that form is read back in front of its
      delimiter whatever follows;
    - strings and comments are described by `StringAt` and `CommentAt`, with a case for each way
      to begin and to end;
    - a literal is decided by its own characters and by whether a quote follows it
      (`readLiteral?_of_same_end`), and a comment by its own characters and by whether its line
      ends behind it (`readComment?_of_same_end`).
-/

namespace SourceCensus.Lexeme

variable {t b after after' rest : Text} {l : Lexeme}

@[simp] theorem length_text (l : Lexeme) : l.text.length = l.size := by
  simp only [text, size, List.length_append]

/-! ## Character literals -/

/-- What stands between the apostrophes of a character literal. -/
inductive CharBody : Text → Prop where
  | plain {c : Char} (hb : c ≠ backslash) (ha : c ≠ apostrophe) (hf : c ≠ '\n') : CharBody [c]
  | escape {d : Char} {tail : Text} (hd : d ≠ '\n') (hlen : tail.length ≤ 8)
      (htail : ∀ x ∈ tail, x ≠ apostrophe ∧ x ≠ '\n') : CharBody (backslash :: d :: tail)

theorem beforeApostrophe?_eq_some {n : Nat} (h : beforeApostrophe? n t = some b) :
    b.length ≤ n ∧ (∀ x ∈ b, x ≠ apostrophe ∧ x ≠ '\n') ∧
      ∃ after, t = b ++ apostrophe :: after := by
  fun_induction beforeApostrophe? n t generalizing b with
  | case1 => cases h
  | case2 rest =>
    cases h
    exact ⟨Nat.le_refl _, by simp, rest, rfl⟩
  | case3 => cases h
  | case4 limit rest =>
    cases h
    exact ⟨Nat.zero_le _, by simp, rest, rfl⟩
  | case5 => cases h
  | case6 limit c rest ha hf ih =>
    obtain ⟨tail, htail, rfl⟩ := Option.map_eq_some_iff.1 h
    obtain ⟨hlen, hin, after, rfl⟩ := ih htail
    refine ⟨by simpa using hlen, ?_, after, rfl⟩
    intro x hx
    rcases List.mem_cons.1 hx with rfl | hx
    · exact ⟨ha, hf⟩
    · exact hin x hx

theorem beforeApostrophe?_append {n : Nat} (hlen : b.length ≤ n)
    (hin : ∀ x ∈ b, x ≠ apostrophe ∧ x ≠ '\n') (after : Text) :
    beforeApostrophe? n (b ++ apostrophe :: after) = some b := by
  induction b generalizing n with
  | nil => cases n <;> simp [beforeApostrophe?]
  | cons c b ih =>
    cases n with
    | zero => simp at hlen
    | succ n =>
      obtain ⟨ha, hf⟩ := hin c (by simp)
      have hrest := ih (n := n) (by simpa using hlen) (fun x hx => hin x (by simp [hx]))
      simp [beforeApostrophe?, ha, hf, hrest]

theorem charBody?_eq_some (h : charBody? t = some b) :
    CharBody b ∧ ∃ after, t = b ++ apostrophe :: after := by
  cases t with
  | nil => cases h
  | cons c rest =>
    simp only [charBody?] at h
    split at h
    · -- a backslash takes the next character whatever it is
      rename_i hc
      cases rest with
      | nil => cases h
      | cons d more =>
        simp only at h
        split at h
        · cases h
        · rename_i hd
          obtain ⟨tail, htail, rfl⟩ := Option.map_eq_some_iff.1 h
          obtain ⟨hlen, hin, after, rfl⟩ := beforeApostrophe?_eq_some htail
          exact ⟨hc ▸ .escape hd hlen hin, after, rfl⟩
    · -- any other first character has to be followed by the apostrophe at once
      rename_i hc
      split at h
      · cases h
      · rename_i hstop
        split at h
        · rename_i hhead
          cases h
          obtain ⟨after, rfl⟩ := List.head?_eq_some_iff.1 hhead
          simp only [Bool.or_eq_true, decide_eq_true_eq, not_or] at hstop
          exact ⟨.plain hc hstop.1 hstop.2, after, rfl⟩
        · cases h

theorem charBody?_append (h : CharBody b) (after : Text) :
    charBody? (b ++ apostrophe :: after) = some b := by
  cases h with
  | plain hb ha hf => simp [charBody?, hb, ha, hf]
  | escape hd hlen htail =>
    simp [charBody?, hd, beforeApostrophe?_append hlen htail after]

/-- A character literal begins a text exactly when a body of its form stands between two
    apostrophes there. -/
theorem readChar?_eq_some_iff : readChar? t = some l ↔
    ∃ b after, CharBody b ∧ t = apostrophe :: (b ++ apostrophe :: after) ∧
      l = ⟨.charLiteral, [apostrophe], b, [apostrophe]⟩ := by
  constructor
  · intro h
    cases t with
    | nil => cases h
    | cons c rest =>
      simp only [readChar?] at h
      split at h
      · rename_i hc
        obtain ⟨b, hb, rfl⟩ := Option.map_eq_some_iff.1 h
        obtain ⟨hbody, after, rfl⟩ := charBody?_eq_some hb
        exact ⟨b, after, hbody, by rw [hc], by rw [hc]⟩
      · cases h
  · rintro ⟨b, after, hbody, rfl, rfl⟩
    simp [readChar?, charBody?_append hbody after]

/-! ## String literals -/

/-- What a closing quote can end in a basic string. -/
inductive BasicBody : Text → Prop where
  | nil : BasicBody []
  | plain {c : Char} {b : Text} (hq : c ≠ quote) (hb : c ≠ backslash) (h : BasicBody b) :
      BasicBody (c :: b)
  | escape {d : Char} {b : Text} (h : BasicBody b) : BasicBody (backslash :: d :: b)

/-- What a closing quote can end in a verbatim string. -/
inductive VerbatimBody : Text → Prop where
  | nil : VerbatimBody []
  | plain {c : Char} {b : Text} (hq : c ≠ quote) (h : VerbatimBody b) : VerbatimBody (c :: b)
  | doubled {b : Text} (h : VerbatimBody b) : VerbatimBody (quote :: quote :: b)

theorem basicBody_append_quote (h : BasicBody b) (after : Text) :
    basicBody (b ++ quote :: after) = b := by
  induction h with
  | nil => cases after <;> simp [basicBody]
  | @plain c b hq hb h ih =>
    cases b with
    | nil => simpa [basicBody, hq, hb] using ih
    | cons d b => simpa [basicBody, hq, hb] using ih
  | escape h ih =>
    have : backslash ≠ quote := by decide
    simp [basicBody, this, ih]

/-- **Basic strings end** at a quote that closes a body of their form, or with the text. -/
theorem basicBody_cases (t : Text) :
    (∃ after, t = basicBody t ++ quote :: after ∧ BasicBody (basicBody t)) ∨ basicBody t = t := by
  fun_induction basicBody t with
  | case1 => exact .inr rfl
  | case2 => exact .inl ⟨[], rfl, .nil⟩
  | case3 => exact .inr rfl
  | case4 d rest => exact .inl ⟨d :: rest, rfl, .nil⟩
  | case5 d rest hq ih =>
    rcases ih with ⟨after, heq, hbody⟩ | hall
    · exact .inl ⟨after, by rw [List.cons_append, List.cons_append, ← heq], .escape hbody⟩
    · exact .inr (by rw [hall])
  | case6 c d rest hq hb ih =>
    rcases ih with ⟨after, heq, hbody⟩ | hall
    · exact .inl ⟨after, by rw [List.cons_append, ← heq], .plain hq hb hbody⟩
    · exact .inr (by rw [hall])

theorem verbatimBody_append_quote (h : VerbatimBody b) (hafter : after.head? ≠ some quote) :
    verbatimBody (b ++ quote :: after) = b := by
  induction h with
  | nil =>
    cases after with
    | nil => simp [verbatimBody]
    | cons d after =>
      have hd : d ≠ quote := by simpa using hafter
      simp [verbatimBody, hd]
  | @plain c b hq h ih =>
    cases b with
    | nil => simpa [verbatimBody, hq] using ih
    | cons d b => simpa [verbatimBody, hq] using ih
  | doubled h ih => simp [verbatimBody, ih]

/-- **Verbatim strings end** at a quote that closes a body of their form and has no other
    quote after it, or with the text. -/
theorem verbatimBody_cases (t : Text) :
    (∃ after, t = verbatimBody t ++ quote :: after ∧ VerbatimBody (verbatimBody t) ∧
      after.head? ≠ some quote) ∨ verbatimBody t = t := by
  fun_induction verbatimBody t with
  | case1 => exact .inr rfl
  | case2 => exact .inl ⟨[], rfl, .nil, by simp⟩
  | case3 => exact .inr rfl
  | case4 rest ih =>
    rcases ih with ⟨after, heq, hbody, hnext⟩ | hall
    · exact .inl ⟨after, by rw [List.cons_append, List.cons_append, ← heq], .doubled hbody, hnext⟩
    · exact .inr (by rw [hall])
  | case5 d rest hd => exact .inl ⟨d :: rest, rfl, .nil, by simpa using hd⟩
  | case6 c d rest hq ih =>
    rcases ih with ⟨after, heq, hbody, hnext⟩ | hall
    · exact .inl ⟨after, by rw [List.cons_append, ← heq], .plain hq hbody, hnext⟩
    · exact .inr (by rw [hall])

/-! ### Openers -/

/-- What a string with backslash escapes begins with. -/
def basicOpeners : List Text := [[quote], ['$', quote]]

/-- What a string with doubled quotes begins with. -/
def verbatimOpeners : List Text := [['@', quote], ['$', '@', quote], ['@', '$', quote]]

/-- A string literal with its own way to find the closing quote. -/
inductive StringAt : Text → Lexeme → Prop where
  | basic {opener rest : Text} (h : opener ∈ basicOpeners) :
      StringAt (opener ++ rest) (ofStringBody opener (basicBody rest) rest)
  | verbatim {opener rest : Text} (h : opener ∈ verbatimOpeners) :
      StringAt (opener ++ rest) (ofStringBody opener (verbatimBody rest) rest)

theorem stringAt_of_readString? (h : readString? t = some l) : StringAt t l := by
  unfold readString? at h
  -- the openers by their length: a quote, two characters, three
  split at h
  · rename_i a rest
    split at h
    · rename_i ha
      cases h
      exact StringAt.basic (show [a] ∈ basicOpeners by simp [basicOpeners, ha])
    · split at h
      · rename_i b more
        split at h
        · rename_i hab
          cases h
          have hopener : [a, b] ∈ verbatimOpeners := by simpa [verbatimOpeners] using hab
          exact StringAt.verbatim hopener
        · split at h
          · rename_i hab
            cases h
            exact StringAt.basic (show [a, b] ∈ basicOpeners by simp_all [basicOpeners])
          · split at h
            · rename_i c after
              split at h
              · rename_i habc
                cases h
                have hopen : [a, b, c] ∈ verbatimOpeners := by
                  simp only [Bool.and_eq_true, Bool.or_eq_true, decide_eq_true_eq] at habc
                  obtain ⟨⟨rfl, rfl⟩ | ⟨rfl, rfl⟩, rfl⟩ := habc <;> simp [verbatimOpeners]
                exact StringAt.verbatim hopen
              · cases h
            · cases h
      · cases h
  · cases h

theorem readString?_of_stringAt (h : StringAt t l) : readString? t = some l := by
  cases h with
  | basic h =>
    simp only [basicOpeners, List.mem_cons, List.not_mem_nil, or_false] at h
    rcases h with rfl | rfl <;> simp [readString?, quote]
  | verbatim h =>
    simp only [verbatimOpeners, List.mem_cons, List.not_mem_nil, or_false] at h
    rcases h with rfl | rfl | rfl <;> simp [readString?, quote]

/-- **A string literal begins** with one of the five openers, and nothing else does. -/
theorem readString?_eq_none_iff :
    readString? t = none ↔ ∀ opener ∈ basicOpeners ++ verbatimOpeners, ¬ opener <+: t := by
  constructor
  · rintro hnone opener hmem ⟨rest, rfl⟩
    rcases List.mem_append.1 hmem with hmem | hmem
    · rw [readString?_of_stringAt (.basic hmem)] at hnone
      cases hnone
    · rw [readString?_of_stringAt (.verbatim hmem)] at hnone
      cases hnone
  · intro hnone
    cases hread : readString? t with
    | none => rfl
    | some l =>
      exfalso
      cases stringAt_of_readString? hread with
      | basic hmem => exact hnone _ (List.mem_append_left _ hmem) (List.prefix_append ..)
      | verbatim hmem => exact hnone _ (List.mem_append_right _ hmem) (List.prefix_append ..)

/-- A string literal begins with a quote, a dollar or an at sign. -/
theorem StringAt.head?_eq (h : StringAt t l) :
    t.head? = some quote ∨ t.head? = some '$' ∨ t.head? = some '@' := by
  cases h with
  | basic h =>
    simp only [basicOpeners, List.mem_cons, List.not_mem_nil, or_false] at h
    rcases h with rfl | rfl <;> simp
  | verbatim h =>
    simp only [verbatimOpeners, List.mem_cons, List.not_mem_nil, or_false] at h
    rcases h with rfl | rfl | rfl <;> simp

theorem readChar?_of_readString? (h : readString? t = some l) : readChar? t = none := by
  cases t with
  | nil => rfl
  | cons c rest =>
    have hc : c ≠ apostrophe := by
      rintro rfl
      have := (stringAt_of_readString? h).head?_eq
      simp [apostrophe, quote] at this
    simp [readChar?, hc]

theorem ofStringBody_closed {opener : Text} (h : rest = b ++ quote :: after) :
    ofStringBody opener b rest = ⟨.stringLiteral, opener, b, [quote]⟩ := by
  subst h
  simp [ofStringBody]

theorem ofStringBody_open (opener body : Text) :
    ofStringBody opener body body = ⟨.stringLiteral, opener, body, []⟩ := by
  simp [ofStringBody]

theorem StringAt.opener_mem (h : StringAt t l) : l.opener ∈ basicOpeners ++ verbatimOpeners := by
  cases h with
  | basic h => exact List.mem_append_left _ h
  | verbatim h => exact List.mem_append_right _ h

/-- A string literal is closed by a quote, or it is the whole text. -/
theorem StringAt.closed_or_open (h : StringAt t l) :
    (∃ after, t = l.text ++ after ∧ l = ⟨.stringLiteral, l.opener, l.body, [quote]⟩ ∧
      (l.opener ∈ basicOpeners ∧ BasicBody l.body ∨
        l.opener ∈ verbatimOpeners ∧ VerbatimBody l.body ∧ after.head? ≠ some quote)) ∨
    t = l.text ∧ l.closer = [] := by
  cases h with
  | @basic opener rest hmem =>
    -- where the body ends a quote closes the literal, or the text is at its end
    rcases basicBody_cases rest with ⟨after, heq, hbody⟩ | hall
    · left
      rw [ofStringBody_closed heq]
      refine ⟨after, ?_, rfl, .inl ⟨hmem, hbody⟩⟩
      simpa [text] using heq
    · right
      rw [hall, ofStringBody_open]
      exact ⟨by simp [text], rfl⟩
  | @verbatim opener rest hmem =>
    rcases verbatimBody_cases rest with ⟨after, heq, hbody, hnext⟩ | hall
    · left
      rw [ofStringBody_closed heq]
      refine ⟨after, ?_, rfl, .inr ⟨hmem, hbody, hnext⟩⟩
      simpa [text] using heq
    · right
      rw [hall, ofStringBody_open]
      exact ⟨by simp [text], rfl⟩

/-- A closed string is read whatever follows it; only a verbatim one minds another quote. -/
theorem stringAt_closed {opener : Text}
    (h : opener ∈ basicOpeners ∧ BasicBody b ∨
      opener ∈ verbatimOpeners ∧ VerbatimBody b ∧ after.head? ≠ some quote) :
    StringAt (opener ++ (b ++ quote :: after)) ⟨.stringLiteral, opener, b, [quote]⟩ := by
  rcases h with ⟨hmem, hbody⟩ | ⟨hmem, hbody, hnext⟩
  · have hbasic : StringAt (opener ++ (b ++ quote :: after)) _ := .basic hmem
    rwa [basicBody_append_quote hbody, ofStringBody_closed rfl] at hbasic
  · have hverbatim : StringAt (opener ++ (b ++ quote :: after)) _ := .verbatim hmem
    rwa [verbatimBody_append_quote hbody hnext, ofStringBody_closed rfl] at hverbatim

/-! ## Comments -/

theorem blockBody_prefix_self (t : Text) : blockBody t <+: t := by
  fun_induction blockBody t with
  | case1 => exact List.prefix_rfl
  | case2 => exact List.prefix_rfl
  | case3 => exact List.nil_prefix
  | case4 c d rest h ih => exact List.cons_prefix_cons.2 ⟨rfl, ih⟩

/-- What the first star and slash can end: a text in which the two do not stand together. -/
def BlockBody (b : Text) : Prop := ¬ ['*', '/'] <:+: b

theorem blockBody_cons_iff {c : Char} :
    BlockBody (c :: b) ↔ ¬ (c = '*' ∧ b.head? = some '/') ∧ BlockBody b := by
  have hfront : ['*', '/'] <+: c :: b ↔ c = '*' ∧ b.head? = some '/' := by
    cases b with
    | nil => simp
    | cons d b => simp [eq_comm]
  unfold BlockBody
  rw [List.infix_cons_iff, hfront, not_or]

theorem blockBody_append_closer (h : BlockBody b) (after : Text) :
    blockBody (b ++ '*' :: '/' :: after) = b := by
  induction b with
  | nil => simp [blockBody]
  | cons c b ih =>
    obtain ⟨hfront, hrest⟩ := blockBody_cons_iff.1 h
    have ih := ih hrest
    cases b with
    | nil => simp [blockBody]
    | cons d b =>
      have hpair : ¬ (c = '*' ∧ d = '/') := by simpa using hfront
      rw [List.cons_append] at ih ⊢
      simpa [blockBody, hpair] using ih

/-- **Block comments end** at the first star and slash, or with the text. -/
theorem blockBody_cases (t : Text) :
    BlockBody (blockBody t) ∧
      ((∃ after, t = blockBody t ++ '*' :: '/' :: after) ∨ blockBody t = t) := by
  fun_induction blockBody t with
  | case1 => exact ⟨by simp [BlockBody], .inr rfl⟩
  | case2 c => exact ⟨by simp [BlockBody, List.infix_cons_iff], .inr rfl⟩
  | case3 c d rest h =>
    obtain ⟨rfl, rfl⟩ : c = '*' ∧ d = '/' := by simpa using h
    exact ⟨by simp [BlockBody], .inl ⟨rest, rfl⟩⟩
  | case4 c d rest h ih =>
    obtain ⟨hbody, hend⟩ := ih
    have hpair : ¬ (c = '*' ∧ d = '/') := by simpa using h
    -- a slash at the front of the body is the next character of the text
    have hhead : (blockBody (d :: rest)).head? = some '/' → d = '/' := by
      intro hhead
      have hpre := blockBody_prefix_self (d :: rest)
      obtain ⟨w, hw⟩ := List.head?_eq_some_iff.1 hhead
      rw [hw] at hpre
      exact (List.cons_prefix_cons.1 hpre).1.symm
    refine ⟨blockBody_cons_iff.2 ⟨fun hfront => hpair ⟨hfront.1, hhead hfront.2⟩, hbody⟩, ?_⟩
    rcases hend with ⟨after, heq⟩ | hall
    · exact .inl ⟨after, by rw [List.cons_append, ← heq]⟩
    · exact .inr (by rw [hall])

/-- The body of a block comment is the whole text exactly when nothing closes it. -/
theorem blockBody_eq_self (h : BlockBody b) : blockBody b = b := by
  rcases (blockBody_cases b).2 with ⟨after, heq⟩ | hall
  · exfalso
    apply h
    rw [heq]
    exact ⟨blockBody b, after, by simp⟩
  · exact hall

/-- A comment with its own way to end. -/
inductive CommentAt : Text → Lexeme → Prop where
  | line {body after : Text} (hbody : '\n' ∉ body)
      (hafter : ∀ c, after.head? = some c → c = '\n') :
      CommentAt ('/' :: '/' :: (body ++ after)) ⟨.comment, ['/', '/'], body, []⟩
  | block {body after : Text} (hbody : BlockBody body) :
      CommentAt ('/' :: '*' :: (body ++ '*' :: '/' :: after))
        ⟨.comment, ['/', '*'], body, ['*', '/']⟩
  | openBlock {body : Text} (hbody : BlockBody body) :
      CommentAt ('/' :: '*' :: body) ⟨.comment, ['/', '*'], body, []⟩

theorem commentAt_of_readComment? (h : readComment? t = some l) : CommentAt t l := by
  unfold readComment? at h
  split at h
  · rename_i a b rest
    split at h
    · rename_i hab
      cases h
      obtain ⟨rfl, rfl⟩ : a = '/' ∧ b = '/' := by simpa using hab
      -- a comment of one line goes up to the feed, which it does not take
      have hline : CommentAt
          ('/' :: '/' :: (rest.takeWhile (· ≠ '\n') ++ rest.dropWhile (· ≠ '\n')))
          ⟨.comment, ['/', '/'], rest.takeWhile (· ≠ '\n'), []⟩ := by
        apply CommentAt.line
        · intro hmem
          have hall := List.all_eq_true.1 (List.all_takeWhile (p := (· ≠ '\n')) (l := rest)) _ hmem
          simp at hall
        · intro c hc
          have := List.head?_dropWhile_not (· ≠ '\n') rest
          rw [hc] at this
          simpa using this
      rwa [List.takeWhile_append_dropWhile] at hline
    · split at h
      · rename_i hab
        cases h
        obtain ⟨rfl, rfl⟩ : a = '/' ∧ b = '*' := by simpa using hab
        -- a block comment is closed, or it is the rest of the text
        obtain ⟨hbody, ⟨after, heq⟩ | hall⟩ := blockBody_cases rest
        · have hclosed : CommentAt ('/' :: '*' :: (blockBody rest ++ '*' :: '/' :: after)) _ :=
            .block hbody
          have hcloser : rest.drop (blockBody rest).length = '*' :: '/' :: after := by
            have hdrop := congrArg (List.drop (blockBody rest).length) heq
            rwa [List.drop_left] at hdrop
          rw [← heq] at hclosed
          rw [hcloser]
          exact hclosed
        · have hopen : CommentAt ('/' :: '*' :: blockBody rest) _ := .openBlock hbody
          rw [hall] at hopen ⊢
          rw [List.drop_length]
          exact hopen
      · cases h
  · cases h

theorem readComment?_of_commentAt (h : CommentAt t l) : readComment? t = some l := by
  cases h with
  | @line body after hbody hafter =>
    have hend : after.takeWhile (· ≠ '\n') = [] := by
      cases after with
      | nil => rfl
      | cons c after => simp [hafter c rfl]
    have hbody' : ∀ c ∈ body, decide (c ≠ '\n') = true := by
      intro c hc
      exact decide_eq_true fun heq => hbody (heq ▸ hc)
    have htake : (body ++ after).takeWhile (· ≠ '\n') = body := by
      rw [List.takeWhile_append_of_pos hbody', hend, List.append_nil]
    rw [readComment?, htake]
    rfl
  | @block body after hbody =>
    have h := blockBody_append_closer hbody after
    simp [readComment?, h]
  | openBlock hbody =>
    have h := blockBody_eq_self hbody
    simp [readComment?, h]

/-- **A comment is decided by itself and the end of its line.** What follows a comment may be
    exchanged, as long as a line comment still ends there, and an open block comment still ends
    with the text. -/
theorem readComment?_of_same_end (h : readComment? (l.text ++ after) = some l)
    (hline : (∀ c, after.head? = some c → c = '\n') → ∀ c, after'.head? = some c → c = '\n')
    (hopen : l.opener = ['/', '*'] → l.closer = [] → after = [] → after' = []) :
    readComment? (l.text ++ after') = some l := by
  generalize ht : l.text ++ after = t at h
  cases commentAt_of_readComment? h with
  | @line body rest hbody hrest =>
    obtain rfl : after = rest := by simpa [text] using ht
    have hread : CommentAt ('/' :: '/' :: (body ++ after')) _ := .line hbody (hline hrest)
    simpa [text] using readComment?_of_commentAt hread
  | @block body rest hbody =>
    have hread : CommentAt ('/' :: '*' :: (body ++ '*' :: '/' :: after')) _ := .block hbody
    simpa [text] using readComment?_of_commentAt hread
  | openBlock hbody =>
    have hnil : after = [] := by simpa [text] using ht
    rw [hopen rfl rfl hnil]
    simpa [text] using readComment?_of_commentAt (.openBlock hbody)

/-- What a comment begins with. -/
def commentOpeners : List Text := [['/', '/'], ['/', '*']]

/-- **A comment begins** with one of the two openers, and nothing else does. -/
theorem readComment?_eq_none_iff :
    readComment? t = none ↔ ∀ opener ∈ commentOpeners, ¬ opener <+: t := by
  constructor
  · rintro hnone opener hmem ⟨rest, rfl⟩
    simp only [commentOpeners, List.mem_cons, List.not_mem_nil, or_false] at hmem
    rcases hmem with rfl | rfl <;> simp [readComment?] at hnone
  · intro hnone
    cases hread : readComment? t with
    | none => rfl
    | some l =>
      exfalso
      cases commentAt_of_readComment? hread with
      | line => exact hnone ['/', '/'] (by decide) (List.prefix_append ['/', '/'] _)
      | block => exact hnone ['/', '*'] (by decide) (List.prefix_append ['/', '*'] _)
      | openBlock => exact hnone ['/', '*'] (by decide) (List.prefix_append ['/', '*'] _)

/-- A comment opens with a slash and then a slash or a star. -/
theorem readComment?_eq_some (h : readComment? t = some l) :
    l.kind = .comment ∧ (l.opener = ['/', '/'] ∨ l.opener = ['/', '*']) ∧ l.text <+: t := by
  cases commentAt_of_readComment? h with
  | @line body after => exact ⟨rfl, .inl rfl, after, by simp [text]⟩
  | @block body after => exact ⟨rfl, .inr rfl, after, by simp [text]⟩
  | openBlock => exact ⟨rfl, .inr rfl, [], by simp [text]⟩

/-! ## All lexemes -/

theorem readLiteral?_eq_some_iff : readLiteral? t = some l ↔
    readChar? t = some l ∨ readChar? t = none ∧ readString? t = some l := by
  simp [readLiteral?]

theorem read?_eq_some_iff : read? t = some l ↔
    readLiteral? t = some l ∨ readLiteral? t = none ∧ readComment? t = some l := by
  simp [read?]

theorem readLiteral?_eq_none_iff :
    readLiteral? t = none ↔ readChar? t = none ∧ readString? t = none := by
  simp [readLiteral?]

theorem read?_eq_none_iff : read? t = none ↔ readLiteral? t = none ∧ readComment? t = none := by
  simp [read?]

/-- No literal begins with a slash. -/
theorem readLiteral?_slash (t : Text) : readLiteral? ('/' :: t) = none := by
  refine readLiteral?_eq_none_iff.2 ⟨?_, ?_⟩
  · simp [readChar?, apostrophe]
  · rw [readString?_eq_none_iff]
    intro opener hmem hpre
    simp only [basicOpeners, verbatimOpeners, List.cons_append, List.nil_append, List.mem_cons,
      List.not_mem_nil, or_false] at hmem
    rcases hmem with rfl | rfl | rfl | rfl | rfl <;>
      exact absurd (List.cons_prefix_cons.1 hpre).1 (by decide)

/-- Where a comment begins, no literal does, so it is what is read there. -/
theorem read?_of_readComment? (h : readComment? t = some l) : read? t = some l := by
  refine read?_eq_some_iff.2 (.inr ⟨?_, h⟩)
  cases commentAt_of_readComment? h <;> exact readLiteral?_slash _

/-- Where a string begins, no character literal does, so it is what is read there. -/
theorem read?_of_readString? (h : readString? t = some l) : read? t = some l :=
  read?_eq_some_iff.2 (.inl (readLiteral?_eq_some_iff.2 (.inr ⟨readChar?_of_readString? h, h⟩)))

theorem stringLiteral_of_readString? (h : readString? t = some l) :
    l.kind = .stringLiteral ∧ l.opener ≠ [] ∧ l.text <+: t := by
  -- the closing quote is one more character of the text, or there is none
  have hclose : ∀ opener body rest : Text, body <+: rest →
      (ofStringBody opener body rest).text <+: opener ++ rest := by
    intro opener body rest hbody
    have hrest := List.prefix_iff_eq_append.1 hbody
    refine ⟨(rest.drop body.length).drop 1, ?_⟩
    rw [text, ofStringBody, List.append_assoc, List.take_append_drop, List.append_assoc, hrest]
  cases stringAt_of_readString? h with
  | @basic opener rest hmem =>
    refine ⟨rfl, ?_, hclose _ _ _ ?_⟩
    · rintro rfl
      simp [basicOpeners] at hmem
    · rcases basicBody_cases rest with ⟨after, heq, -⟩ | hall
      · exact ⟨quote :: after, heq.symm⟩
      · exact ⟨[], by rw [hall, List.append_nil]⟩
  | @verbatim opener rest hmem =>
    refine ⟨rfl, ?_, hclose _ _ _ ?_⟩
    · rintro rfl
      simp [verbatimOpeners] at hmem
    · rcases verbatimBody_cases rest with ⟨after, heq, -⟩ | hall
      · exact ⟨quote :: after, heq.symm⟩
      · exact ⟨[], by rw [hall, List.append_nil]⟩

theorem charLiteral_of_readChar? (h : readChar? t = some l) :
    l.kind = .charLiteral ∧ l.opener ≠ [] ∧ l.text <+: t := by
  obtain ⟨b, after, -, rfl, rfl⟩ := readChar?_eq_some_iff.1 h
  exact ⟨rfl, by simp, after, by simp [text]⟩

theorem literal_of_readLiteral? (h : readLiteral? t = some l) :
    l.kind ≠ .comment ∧ l.opener ≠ [] ∧ l.text <+: t := by
  rcases readLiteral?_eq_some_iff.1 h with h | ⟨-, h⟩
  · obtain ⟨hkind, hopen, hpre⟩ := charLiteral_of_readChar? h
    exact ⟨by simp [hkind], hopen, hpre⟩
  · obtain ⟨hkind, hopen, hpre⟩ := stringLiteral_of_readString? h
    exact ⟨by simp [hkind], hopen, hpre⟩

/-! ### Which reader it was -/

theorem readChar?_of_kind (h : read? t = some l) (hkind : l.kind = .charLiteral) :
    readChar? t = some l := by
  rcases read?_eq_some_iff.1 h with h | ⟨-, h⟩
  · rcases readLiteral?_eq_some_iff.1 h with h | ⟨-, h⟩
    · exact h
    · rw [(stringLiteral_of_readString? h).1] at hkind
      cases hkind
  · rw [(readComment?_eq_some h).1] at hkind
    cases hkind

theorem readString?_of_kind (h : read? t = some l) (hkind : l.kind = .stringLiteral) :
    readString? t = some l := by
  rcases read?_eq_some_iff.1 h with h | ⟨-, h⟩
  · rcases readLiteral?_eq_some_iff.1 h with h | ⟨-, h⟩
    · rw [(charLiteral_of_readChar? h).1] at hkind
      cases hkind
    · exact h
  · rw [(readComment?_eq_some h).1] at hkind
    cases hkind

theorem readComment?_of_kind (h : read? t = some l) (hkind : l.kind = .comment) :
    readComment? t = some l := by
  rcases read?_eq_some_iff.1 h with h | ⟨-, h⟩
  · exact absurd hkind (literal_of_readLiteral? h).1
  · exact h

theorem opener_ne_nil_of_read? (h : read? t = some l) : l.opener ≠ [] := by
  rcases read?_eq_some_iff.1 h with h | ⟨-, h⟩
  · exact (literal_of_readLiteral? h).2.1
  · obtain ⟨-, hopener, -⟩ := readComment?_eq_some h
    rcases hopener with ho | ho <;> simp [ho]

/-- **A lexeme is a non-empty prefix** of the text it is read from. -/
theorem text_prefix_of_read? (h : read? t = some l) : 0 < l.size ∧ l.text <+: t := by
  have hopener := List.length_pos_iff.2 (opener_ne_nil_of_read? h)
  have hpre : l.text <+: t := by
    rcases read?_eq_some_iff.1 h with h | ⟨-, h⟩
    · exact (literal_of_readLiteral? h).2.2
    · exact (readComment?_eq_some h).2.2
  refine ⟨?_, hpre⟩
  unfold size
  omega

/-- The characters that a lexeme can begin with. -/
def openingMarks : Text := [apostrophe, quote, '$', '@', '/']

theorem mem_openingMarks_of_read? {c : Char} (h : read? (c :: rest) = some l) :
    c ∈ openingMarks := by
  rcases read?_eq_some_iff.1 h with h | ⟨-, h⟩
  · rcases readLiteral?_eq_some_iff.1 h with h | ⟨-, h⟩
    · obtain ⟨b, after, -, heq, -⟩ := readChar?_eq_some_iff.1 h
      rw [(List.cons.inj heq).1]
      decide
    · have hhead := (stringAt_of_readString? h).head?_eq
      simp only [List.head?_cons, Option.some.injEq] at hhead
      rcases hhead with rfl | rfl | rfl <;> decide
  · obtain ⟨-, hopener, hpre⟩ := readComment?_eq_some h
    have hslash : c = '/' := by
      rcases hopener with ho | ho
      all_goals
        rw [text, ho] at hpre
        exact (List.cons_prefix_cons.1 hpre).1.symm
    rw [hslash]
    decide

/-- A literal that is closed is read again whatever follows it, as long as no quote comes to stand
    right after it. -/
theorem readLiteral?_of_closed (h : readLiteral? (l.text ++ after) = some l)
    (hclosed : l.closer ≠ [])
    (hquote : after'.head? = some quote → after.head? = some quote) :
    readLiteral? (l.text ++ after') = some l := by
  rcases readLiteral?_eq_some_iff.1 h with h | ⟨-, h⟩
  · obtain ⟨b, rest, hbody, -, rfl⟩ := readChar?_eq_some_iff.1 h
    refine readLiteral?_eq_some_iff.2 (.inl (readChar?_eq_some_iff.2 ⟨b, after', hbody, ?_, rfl⟩))
    simp [text]
  · rcases (stringAt_of_readString? h).closed_or_open with ⟨rest, heq, hl, hbody⟩ | ⟨-, hopen⟩
    · obtain rfl : after = rest := List.append_cancel_left heq
      have hbody' : l.opener ∈ basicOpeners ∧ BasicBody l.body ∨
          l.opener ∈ verbatimOpeners ∧ VerbatimBody l.body ∧ after'.head? ≠ some quote :=
        hbody.imp_right fun ⟨hmem, hb, hnext⟩ => ⟨hmem, hb, fun hq => hnext (hquote hq)⟩
      have htext : l.text ++ after' = l.opener ++ (l.body ++ quote :: after') := by
        rw [hl]; simp [text]
      have hread : readString? (l.text ++ after') = some l := by
        rw [htext, readString?_of_stringAt (stringAt_closed hbody'), ← hl]
      exact readLiteral?_eq_some_iff.2 (.inr ⟨readChar?_of_readString? hread, hread⟩)
    · exact absurd hopen hclosed

/-- A literal that is not closed ends with the text. -/
theorem eq_nil_of_open (h : readLiteral? (l.text ++ after) = some l) (hopen : l.closer = []) :
    after = [] := by
  rcases readLiteral?_eq_some_iff.1 h with h | ⟨-, h⟩
  · obtain ⟨b, rest, -, -, rfl⟩ := readChar?_eq_some_iff.1 h
    cases hopen
  · rcases (stringAt_of_readString? h).closed_or_open with ⟨rest, -, hl, -⟩ | ⟨hall, -⟩
    · rw [hl] at hopen
      cases hopen
    · simpa using hall

/-- **A literal is decided by itself and the next quote.** What follows a literal may be
    exchanged, as long as the literal still ends with the text if it did, and no quote comes
    to stand right after it. -/
theorem readLiteral?_of_same_end (h : readLiteral? (l.text ++ after) = some l)
    (hend : after = [] → after' = [])
    (hquote : after'.head? = some quote → after.head? = some quote) :
    readLiteral? (l.text ++ after') = some l := by
  by_cases hopen : l.closer = []
  · have hnil := eq_nil_of_open h hopen
    rw [hend hnil]
    rwa [hnil] at h
  · exact readLiteral?_of_closed h hopen hquote

/-! ## Steps of a scan -/

variable {read : Text → Option Lexeme} {c : Char}

theorem scanFrom_of_none (offset : Nat) (h : read (c :: rest) = none) :
    scanFrom read offset (c :: rest) = scanFrom read (offset + 1) rest := by
  rw [scanFrom, h]

theorem scanFrom_of_some (offset : Nat) (hpos : 0 < l.size) (h : read (l.text ++ after) = some l) :
    scanFrom read offset (l.text ++ after) =
      ⟨offset, l⟩ :: scanFrom read (offset + l.size) after := by
  -- the scan goes on behind the lexeme, which is not empty
  cases htext : l.text with
  | nil =>
    have : l.size = 0 := by rw [← length_text, htext]; rfl
    omega
  | cons c tail =>
    have hsize : l.size = tail.length + 1 := by rw [← length_text, htext]; rfl
    rw [htext] at h
    rw [List.cons_append] at h ⊢
    rw [scanFrom, h]
    have hdrop : (tail ++ after).drop (l.size - 1) = after := by
      rw [hsize, Nat.add_sub_cancel, List.drop_left]
    have hoffset : offset + 1 + (l.size - 1) = offset + l.size := by omega
    simp only [hdrop, hoffset]

end SourceCensus.Lexeme
