import Mathlib.Algebra.Group.Nat.Defs
import Mathlib.Data.List.Infix
import SourceCensus.Proofs.Pattern.Depth

/-! # Steps of reading, and what they fail with

    A step of reading takes marks from the front of what is left. `Within` says how many marks have
    been taken, and that alphabets were chosen only by letters that stand in the text.

    `Alike` compares two steps at the same place of a text: they do the same, what they give is as
    `Q` says, and what they fail with is shown by the text (`FaultIn`). That one step does so is the
    case of a step and itself (`Keeps`). There is one lemma for each way to make a step, and with
    them one for each reader that calls no other part of the grammar.
-/

namespace SourceCensus.Pattern

open Reader

/-! ## Places -/

/-- The letter that chooses an alphabet. -/
def Alphabet.letter : Alphabet → Char
  | .ascii => 'a'
  | .unicode => 'u'

/-- Options choose an alphabet only if its letter stands in the text. -/
def ChosenIn (all : List Mark) (o : Options) : Prop :=
  ∀ a, o.alphabet = some a → .plain a.letter ∈ all

/-- A state in which some marks of a text have been taken. -/
structure Within (all : List Mark) (k : Nat) (s : Reading) : Prop where
  /-- What is left. -/
  rest : s.rest = all.drop k
  /-- There were that many marks. -/
  le : k ≤ all.length
  /-- The alphabet that is chosen for the whole pattern. -/
  chosen : ChosenIn all s.options
  /-- Both alphabets are chosen. -/
  conflict : s.conflict = true → ∀ a : Alphabet, .plain a.letter ∈ all

/-! ## Errors -/

/-- Characters of a class stand in a text, one after the other and none after a backslash. -/
def RunIn (all : List Mark) (allowed : Char → Bool) (cs : List Char) : Prop :=
  cs.map .plain <:+: all ∧ ∀ c ∈ cs, allowed c = true

/-- The errors that a step of reading may report. With how many calls reading began limits how
    deeply groups may be nested. -/
inductive FaultIn (calls : Nat) (all : List Mark) : PatternError → Prop
  | malformed (flaw : Flaw) (position : Option Nat) : FaultIn calls all (.malformed flaw position)
  | repetition (ds : List Char) (hrun : RunIn all isDecimalDigit ds)
      (hlarge : repetitionLimit ≤ numberIn 10 ds) : FaultIn calls all .repetitionTooLarge
  | digits (ds : List Char) (hrun : RunIn all isDecimalDigit ds) (hmany : digitLimit < ds.length) :
      FaultIn calls all (.tooManyDigits ds.length)
  | character (ds : List Char) (hrun : .escaped 'U' :: ds.map .plain <:+: all)
      (hcount : ds.length = 8) (hdigits : ∀ d ∈ ds, isHex d = true)
      (hlarge : characterLimit ≤ numberIn 16 ds) : FaultIn calls all .characterTooLarge
  | nested (hfew : calls < 2 * all.length + 2) : FaultIn calls all .nestedTooDeep

/-! ## Steps -/

/-- Two steps do the same in a text of which `k` marks have been taken. They give what `Q` says of
    it and of the number of marks taken then, and fail only with errors that the text shows. -/
def Alike (calls : Nat) (all : List Mark) (k : Nat) {α : Type} (Q : α → Nat → Prop)
    (x y : Reader α) : Prop :=
  ∀ s, Within all k s → x.run s = y.run s ∧
    (∀ a s', y.run s = .ok (a, s') → ∃ j, Q a j ∧ Within all j s') ∧
    ∀ e, y.run s = .error e → FaultIn calls all e

/-- One step gives what `Q` says and fails only with errors that the text shows. -/
abbrev Keeps (calls : Nat) (all : List Mark) (k : Nat) {α : Type} (Q : α → Nat → Prop)
    (x : Reader α) : Prop :=
  Alike calls all k Q x x

/-- The same, when nothing is to be said but that no mark is given back. -/
abbrev Stays (calls : Nat) (all : List Mark) (k : Nat) {α : Type} (x : Reader α) : Prop :=
  Keeps calls all k (fun _ j => k ≤ j) x

variable {calls : Nat} {all : List Mark} {k : Nat}

section Steps

variable {α β : Type} {Q : α → Nat → Prop} {R : β → Nat → Prop} {x x' y y' : Reader α}

theorem keeps_pure {a : α} (h : Q a k) : Keeps calls all k Q (pure a) := by
  intro s hs
  refine ⟨rfl, ?_, ?_⟩
  · intro b s' hrun
    cases hrun
    exact ⟨k, h, hs⟩
  · intro e hrun
    cases hrun

theorem keeps_throw {e : PatternError} (h : FaultIn calls all e) :
    Keeps calls all k Q (throw e) := by
  intro s _
  refine ⟨rfl, ?_, ?_⟩
  · intro b s' hrun
    cases hrun
  · intro e' hrun
    cases hrun
    exact h

theorem keeps_malformedAt (position : Nat) (flaw : Flaw) :
    Keeps calls all k Q (malformedAt position flaw) :=
  keeps_throw (.malformed flaw (some position))

theorem Alike.bind {f g : α → Reader β} (hx : Alike calls all k Q x y)
    (hf : ∀ a j, Q a j → Alike calls all j R (f a) (g a)) :
    Alike calls all k R (x >>= f) (y >>= g) := by
  intro s hs
  obtain ⟨hsame, hok, herror⟩ := hx s hs
  rw [StateT.run_bind, StateT.run_bind, hsame]
  cases hrun : y.run s with
  | error e =>
    refine ⟨rfl, ?_, ?_⟩
    · intro b s' h
      cases h
    · intro e' h
      cases h
      exact herror e hrun
  | ok p =>
    obtain ⟨j, ha, hs'⟩ := hok p.1 p.2 hrun
    exact hf p.1 j ha p.2 hs'

theorem Alike.imp {P : α → Nat → Prop} (hx : Alike calls all k Q x y)
    (h : ∀ a j, Q a j → P a j) : Alike calls all k P x y := by
  intro s hs
  obtain ⟨hsame, hok, herror⟩ := hx s hs
  refine ⟨hsame, ?_, herror⟩
  intro a s' hrun
  obtain ⟨j, ha, hs'⟩ := hok a s' hrun
  exact ⟨j, h a j ha, hs'⟩

theorem alike_ite {c : Prop} [Decidable c] (hx : c → Alike calls all k Q x x')
    (hy : ¬ c → Alike calls all k Q y y') :
    Alike calls all k Q (if c then x else y) (if c then x' else y') := by
  by_cases h : c
  · rw [if_pos h, if_pos h]
    exact hx h
  · rw [if_neg h, if_neg h]
    exact hy h

theorem keeps_get :
    Keeps calls all k (fun s j => j = k ∧ Within all k s) (get : Reader Reading) := by
  intro s hs
  refine ⟨rfl, ?_, ?_⟩
  · intro b s' hrun
    cases hrun
    exact ⟨k, ⟨rfl, hs⟩, hs⟩
  · intro e hrun
    cases hrun

theorem keeps_set {s : Reading} {j : Nat} (h : Within all j s) :
    Keeps calls all k (fun _ i => i = j) (set s : Reader Unit) := by
  intro _ _
  refine ⟨rfl, ?_, ?_⟩
  · intro b s' hrun
    cases hrun
    exact ⟨j, rfl, h⟩
  · intro e hrun
    cases hrun

theorem keeps_modify {f : Reading → Reading} {j : Nat}
    (h : ∀ s, Within all k s → Within all j (f s)) :
    Keeps calls all k (fun _ i => i = j) (modify f : Reader Unit) := by
  intro s hs
  refine ⟨rfl, ?_, ?_⟩
  · intro b s' hrun
    cases hrun
    exact ⟨j, rfl, h s hs⟩
  · intro e hrun
    cases hrun

theorem stays_modify {f : Reading → Reading} (h : ∀ s, Within all k s → Within all k (f s)) :
    Stays calls all k (modify f : Reader Unit) :=
  (keeps_modify h).imp fun _ _ hj => hj.ge

theorem keeps_malformed (flaw : Flaw) (back : Nat) : Keeps calls all k Q (malformed flaw back) := by
  unfold malformed
  exact keeps_get.bind fun s j _ => keeps_malformedAt _ flaw

/-- A check that fails reports its error, and otherwise what follows it counts. -/
theorem alike_check {c : Prop} [Decidable c] {z : Reader PUnit} {f g : PUnit → Reader α}
    (hz : c → Keeps calls all k (fun _ _ => False) z)
    (h : ¬ c → Alike calls all k Q (f ()) (g ())) :
    Alike calls all k Q (if c then z >>= f else f ()) (if c then z >>= g else g ()) :=
  alike_ite (fun hc => (hz hc).bind fun _ _ => False.elim) h

/-- Two ways to begin that give the same, and what follows them. -/
theorem alike_either {c : Prop} [Decidable c] {f g : α → Reader β}
    (hx : Alike calls all k Q x x') (hy : Alike calls all k Q y y')
    (hf : ∀ a j, Q a j → Alike calls all j R (f a) (g a)) :
    Alike calls all k R (if c then x >>= f else y >>= f) (if c then x' >>= g else y' >>= g) :=
  alike_ite (fun _ => hx.bind hf) fun _ => hy.bind hf

/-- Whatever a step does, no more marks can have been taken than there are. -/
theorem alike_of_le (h : k ≤ all.length → Alike calls all k Q x y) : Alike calls all k Q x y :=
  fun s hs => h hs.le s hs

theorem Alike.left (h : Alike calls all k Q x y) : Keeps calls all k Q x := by
  intro s hs
  obtain ⟨hsame, hrest⟩ := h s hs
  rw [hsame]
  exact ⟨rfl, hrest⟩

end Steps

/-! ## Marks -/

theorem drop_min_length (k : Nat) : all.drop (min k all.length) = all.drop k := by
  by_cases h : k ≤ all.length
  · rw [Nat.min_eq_left h]
  · have hle : all.length ≤ k := Nat.le_of_not_le h
    rw [Nat.min_eq_right hle, List.drop_length, List.drop_of_length_le hle]

theorem keeps_skip (count : Nat) :
    Keeps calls all k (fun _ j => j = min (k + count) all.length) (skip count) := by
  have hahead : ∀ s, Within all k s → Within all (min (k + count) all.length) (ahead s count) := by
    intro s hs
    refine ⟨?_, Nat.min_le_right _ _, hs.chosen, hs.conflict⟩
    show s.rest.drop count = _
    rw [hs.rest, List.drop_drop, drop_min_length]
  unfold skip
  refine (keeps_modify hahead).bind fun _ j hj => keeps_get.bind fun s i hi => ?_
  refine alike_ite (fun _ => keeps_malformed _ _) fun _ => keeps_pure ?_
  rw [hi.1, hj]

theorem keeps_peek : Keeps calls all k (fun m j => m = all[k]? ∧ j = k) peek := by
  unfold peek
  refine keeps_get.bind fun s j hj => keeps_pure ⟨?_, hj.1⟩
  rw [hj.2.rest, List.head?_drop]

theorem lt_length_of_eq_some {m : Mark} (h : some m = all[k]?) : k < all.length :=
  (List.getElem?_eq_some_iff.1 h.symm).1

/-- What a step takes that takes the next mark, if there is one. -/
def NextOf (all : List Mark) (k : Nat) : Option Mark → Nat → Prop
  | none, j => j = k
  | some m, j => all[k]? = some m ∧ j = k + 1

theorem NextOf.le {m : Option Mark} {j : Nat} (h : NextOf all k m j) : k ≤ j := by
  cases m with
  | none => exact h.ge
  | some m => exact h.2 ▸ Nat.le_succ k

theorem keeps_next : Keeps calls all k (NextOf all k) next := by
  unfold next
  refine keeps_peek.bind fun m j hm => ?_
  obtain ⟨hm, rfl⟩ := hm
  refine alike_of_le fun hle => (keeps_skip 1).bind fun _ i hi => keeps_pure ?_
  cases m with
  | none =>
    have hend : all.length ≤ j := List.getElem?_eq_none_iff.1 hm.symm
    show i = j
    omega
  | some m =>
    have hlt := lt_length_of_eq_some hm
    exact ⟨hm.symm, by omega⟩

/-- A given character that is there is taken. -/
theorem keeps_accept (c : Char) :
    Keeps calls all k (fun b j => k ≤ j ∧ (b = true → k + 1 ≤ j)) (accept c) := by
  unfold accept
  refine keeps_peek.bind fun m j hm => ?_
  obtain ⟨rfl, rfl⟩ := hm
  refine alike_ite (fun hc => ?_) fun _ => keeps_pure ⟨Nat.le_refl _, nofun⟩
  have hlt := lt_length_of_eq_some hc.symm
  refine (keeps_skip 1).bind fun _ i hi => keeps_pure ?_
  omega

theorem map_leadingChars_isPrefix (allowed : Char → Bool) (limit : Nat) (ms : List Mark) :
    (leadingChars allowed limit ms).map .plain <+: ms := by
  fun_induction leadingChars allowed limit ms with
  | case1 limit c rest hc ih => exact (List.prefix_cons_inj _).2 ih
  | case2 => exact List.nil_prefix
  | case3 => exact List.nil_prefix

theorem length_leadingChars_le (allowed : Char → Bool) (limit : Nat) (ms : List Mark) :
    (leadingChars allowed limit ms).length ≤ limit := by
  fun_induction leadingChars allowed limit ms with
  | case1 limit c rest hc ih => exact Nat.succ_le_succ ih
  | case2 => exact Nat.zero_le _
  | case3 => exact Nat.zero_le _

theorem allowed_of_mem_leadingChars (allowed : Char → Bool) (limit : Nat) (ms : List Mark) :
    ∀ c ∈ leadingChars allowed limit ms, allowed c = true := by
  fun_induction leadingChars allowed limit ms with
  | case1 limit c rest hc ih => exact List.forall_mem_cons.2 ⟨hc, ih⟩
  | case2 => exact List.forall_mem_nil _
  | case3 => exact List.forall_mem_nil _

/-- Characters of a class that are taken come next in the text. -/
structure Taken (all : List Mark) (k : Nat) (allowed : Char → Bool) (cs : List Char) : Prop where
  comes : cs.map .plain <+: all.drop k
  allowed : ∀ c ∈ cs, allowed c = true

theorem Taken.run {allowed : Char → Bool} {cs : List Char} (h : Taken all k allowed cs) :
    RunIn all allowed cs :=
  ⟨h.comes.isInfix.trans (List.drop_suffix k all).isInfix, h.allowed⟩

theorem keeps_takeChars (allowed : Char → Bool) (limit : Nat) :
    Keeps calls all k (fun cs j => Taken all k allowed cs ∧ cs.length ≤ limit ∧ k ≤ j)
      (takeChars allowed limit) := by
  unfold takeChars
  refine keeps_get.bind fun s j hs => ?_
  obtain ⟨rfl, hs⟩ := hs
  refine alike_of_le fun hle => ?_
  refine (keeps_skip _).bind fun _ i hi => keeps_pure ⟨⟨?_, ?_⟩, ?_, by omega⟩
  · rw [← hs.rest]
    exact map_leadingChars_isPrefix _ _ _
  · exact allowed_of_mem_leadingChars _ _ _
  · exact length_leadingChars_le _ _ _

theorem keeps_takeAllChars (allowed : Char → Bool) :
    Keeps calls all k (fun cs j => Taken all k allowed cs ∧ k ≤ j) (takeAllChars allowed) := by
  unfold takeAllChars
  refine keeps_get.bind fun s j hs => ?_
  obtain ⟨rfl, -⟩ := hs
  exact (keeps_takeChars allowed _).imp fun cs i h => ⟨h.1, h.2.2⟩

theorem stays_takeBefore (c : Char) : Stays calls all k (takeBefore c) := by
  unfold takeBefore
  refine keeps_get.bind fun s j hs => ?_
  obtain ⟨rfl, -⟩ := hs
  refine alike_of_le fun hle => ?_
  exact (keeps_skip _).bind fun _ i hi => keeps_pure (by omega)

theorem stays_next : Stays calls all k next := keeps_next.imp fun _ _ h => h.le

theorem Alike.after {α β : Type} {j : Nat} {R : β → Nat → Prop} {x y : Reader α}
    {f g : α → Reader β} (hx : Alike calls all j (fun _ i => j ≤ i) x y) (hj : k ≤ j)
    (hf : ∀ a i, k ≤ i → Alike calls all i R (f a) (g a)) :
    Alike calls all j R (x >>= f) (y >>= g) :=
  hx.bind fun a i hi => hf a i (Nat.le_trans hj hi)

theorem stays_takeName (what : Wanted) (close : Char) :
    Stays calls all k (takeName what close) := by
  unfold takeName
  refine (stays_takeBefore close).bind fun name j hj => stays_next.after hj fun m i hi => ?_
  refine alike_ite (fun _ => keeps_malformed _ _) fun _ => ?_
  exact alike_ite (fun _ => keeps_pure hi) fun _ => keeps_malformed _ _

theorem stays_skipPast (c : Char) : Stays calls all k (skipPast c) := by
  unfold skipPast
  exact (stays_takeBefore c).bind fun _ j hj => stays_next.after hj fun m i hi => keeps_pure hi

/-! ## Groups -/

theorem stays_checkBehind (n : Nat) : Stays calls all k (checkBehind n) := by
  unfold checkBehind
  refine keeps_get.bind fun s j hs => ?_
  obtain ⟨rfl, -⟩ := hs
  dsimp only
  split
  · exact keeps_pure (Nat.le_refl _)
  · refine alike_check (fun _ => keeps_malformed _ _) fun _ => ?_
    exact alike_ite (fun _ => keeps_malformed _ _) fun _ => keeps_pure (Nat.le_refl _)

theorem stays_checkReference (n back : Nat) : Stays calls all k (checkReference n back) := by
  unfold checkReference
  refine keeps_get.bind fun s j hs => ?_
  obtain ⟨rfl, -⟩ := hs
  exact alike_check (fun _ => keeps_malformed _ _) fun _ => stays_checkBehind n

theorem stays_openGroup (name : Option (List Char)) : Stays calls all k (openGroup name) := by
  unfold openGroup
  refine keeps_get.bind fun s j hs => ?_
  obtain ⟨rfl, hs⟩ := hs
  have hopen : ∀ widths names, Within all j { s with widths, names } :=
    fun _ _ => ⟨hs.rest, hs.le, hs.chosen, hs.conflict⟩
  dsimp only
  split
  · exact (keeps_set (hopen _ _)).bind fun _ i hi => keeps_pure hi.ge
  · split
    · exact (keeps_malformed (Q := fun _ _ => False) _ _).bind fun _ _ => False.elim
    · exact (keeps_set (hopen _ _)).bind fun _ i hi => keeps_pure hi.ge

theorem stays_closeGroup (n : Nat) (body : Node) : Stays calls all k (closeGroup n body) := by
  unfold closeGroup
  exact stays_modify fun s hs => ⟨hs.rest, hs.le, hs.chosen, hs.conflict⟩

/-! ## Escapes -/

theorem digitOf_lt {c : Char} (h : isHex c = true) : digitOf c < 16 := by
  have hle : ∀ a b : Char, a ≤ b ↔ a.toNat ≤ b.toNat := fun _ _ => Iff.rfl
  simp only [isHex, isDecimalDigit, hle, Bool.or_eq_true, Bool.and_eq_true, decide_eq_true_eq,
    Char.reduceToNat] at h
  simp only [digitOf, isDecimalDigit, hle, Bool.and_eq_true, decide_eq_true_eq, Char.reduceToNat]
  split
  · omega
  · split <;> omega

/-- The number that hexadecimal digits write is limited by how many they are. -/
theorem numberIn_lt {ds : List Char} (h : ∀ d ∈ ds, isHex d = true) :
    numberIn 16 ds < 16 ^ ds.length := by
  induction ds using List.reverseRecOn with
  | nil => exact Nat.one_pos
  | append_singleton ds d ih =>
    have hd := digitOf_lt (h d (by simp))
    have hds := ih fun c hc => h c (by simp [hc])
    have hstep : numberIn 16 (ds ++ [d]) = numberIn 16 ds * 16 + digitOf d := by
      unfold numberIn
      rw [List.foldl_append]
      rfl
    rw [hstep, List.length_append, List.length_singleton, Nat.pow_succ]
    omega

/-- Few hexadecimal digits write no number that is too large. -/
theorem length_of_characterLimit_le {ds : List Char} (h : ∀ d ∈ ds, isHex d = true)
    (hlarge : characterLimit ≤ numberIn 16 ds) : 8 ≤ ds.length := by
  by_contra hshort
  have hlt := numberIn_lt h
  have hpow : 16 ^ ds.length ≤ 16 ^ 7 := Nat.pow_le_pow_right (by decide) (by omega)
  unfold characterLimit at hlarge
  omega

/-- A number in hexadecimal digits behind a letter; only that letter may have eight of them. -/
theorem stays_readCharacterNumber {letter : Char} {count : Nat}
    (hmark : all[k]? = some (.escaped letter)) (hcount : count = 8 ∧ letter = 'U' ∨ count < 8) :
    Stays calls all (k + 1) (readCharacterNumber letter count) := by
  have hdigits : Keeps calls all (k + 1)
      (fun ds j => Taken all (k + 1) isHex ds ∧ ds.length = count ∧ k + 1 ≤ j)
      (readHexDigits letter count) := by
    unfold readHexDigits
    refine (keeps_takeChars isHex count).bind fun ds j hds => ?_
    exact alike_ite (fun hlength => keeps_pure ⟨hds.1, hlength, hds.2.2⟩) fun _ =>
      keeps_malformed _ _
  unfold readCharacterNumber
  refine hdigits.bind fun ds j hds => ?_
  obtain ⟨htaken, hlength, hj⟩ := hds
  refine alike_check (fun hlarge => keeps_throw ?_) fun _ => ?_
  · have hlong := length_of_characterLimit_le htaken.allowed hlarge
    obtain ⟨heq, rfl⟩ := hcount.resolve_right (by omega)
    refine .character ds ?_ (hlength.trans heq) htaken.allowed hlarge
    -- the digits come right behind the letter
    have hrest : all.drop k = .escaped 'U' :: all.drop (k + 1) :=
      (List.drop_eq_getElem?_toList_append.trans (by rw [hmark]; rfl))
    have hfront : .escaped 'U' :: ds.map .plain <+: all.drop k := by
      rw [hrest]
      exact (List.prefix_cons_inj _).2 htaken.comes
    exact hfront.isInfix.trans (List.drop_suffix k all).isInfix
  · exact alike_check (fun _ => keeps_malformed _ _) fun _ => keeps_pure hj

theorem stays_readCharacterName (named : String → Option Char) :
    Stays calls all k (readCharacterName named) := by
  unfold readCharacterName
  refine (keeps_accept _).bind fun b j hj => ?_
  refine alike_check (fun _ => keeps_malformed _ _) fun _ => ?_
  refine (stays_takeName _ _).after hj.1 fun name i hi => ?_
  split
  · exact keeps_pure hi
  · exact keeps_malformed _ _

theorem stays_of_characterEscape? {named : String → Option Char} {c : Char} {read : Reader Nat}
    (hmark : all[k]? = some (.escaped c)) (h : characterEscape? named c = some read) :
    Stays calls all (k + 1) read := by
  unfold characterEscape? at h
  split at h
  · next hc =>
    cases h
    exact stays_readCharacterNumber (hc ▸ hmark) (.inr (by decide))
  · split at h
    · next hc =>
      cases h
      exact stays_readCharacterNumber (hc ▸ hmark) (.inr (by decide))
    · split at h
      · next hc =>
        cases h
        exact stays_readCharacterNumber (hc ▸ hmark) (.inl ⟨rfl, rfl⟩)
      · split at h
        · cases h
          exact stays_readCharacterName named
        · cases h

theorem stays_readClassEscape {named : String → Option Char} {c : Char}
    (hmark : all[k]? = some (.escaped c)) :
    Stays calls all (k + 1) (readClassEscape named c) := by
  unfold readClassEscape
  split
  · exact keeps_pure (Nat.le_refl _)
  · exact keeps_pure (Nat.le_refl _)
  · next hread _ _ =>
    exact (stays_of_characterEscape? hmark hread).bind fun _ j hj => keeps_pure hj
  · refine alike_ite (fun _ => ?_) fun _ => ?_
    · refine (keeps_takeChars isOctal 2).bind fun ds j hds => ?_
      exact alike_ite (fun _ => keeps_pure hds.2.2) fun _ => keeps_malformed _ _
    · exact alike_ite (fun _ => keeps_malformed _ _) fun _ => keeps_pure (Nat.le_refl _)

/-- What a step gives for a node that has no parts. -/
abbrev Simply (calls : Nat) (all : List Mark) (k : Nat) (x : Reader Node) : Prop :=
  Keeps calls all k (fun n j => n.depth = 0 ∧ k ≤ j) x

theorem simply_readNumbered (octal : Bool) (ds : List Char) :
    Simply calls all k (readNumbered octal ds) := by
  unfold readNumbered
  refine alike_ite (fun _ => ?_) fun _ => ?_
  · exact alike_ite (fun _ => keeps_pure ⟨rfl, Nat.le_refl _⟩) fun _ => keeps_malformed _ _
  · refine keeps_get.bind fun s j hs => ?_
    obtain ⟨rfl, -⟩ := hs
    refine alike_check (fun _ => keeps_malformed _ _) fun _ => ?_
    exact (stays_checkReference _ _).bind fun _ i hi => keeps_pure ⟨rfl, hi⟩

theorem simply_readNumberEscape (c : Char) : Simply calls all k (readNumberEscape c) := by
  have hnone : ∀ j, k ≤ j → Keeps calls all j (fun _ i => k ≤ i) (pure [] : Reader (List Char)) :=
    fun j hj => keeps_pure hj
  have hthird : ∀ j, k ≤ j → Keeps calls all j (fun _ i => k ≤ i) (takeChars isOctal 1) :=
    fun j hj => (keeps_takeChars isOctal 1).imp fun _ _ h => Nat.le_trans hj h.2.2
  have hnumbered : ∀ octal ds i, k ≤ i →
      Keeps calls all i (fun n j => n.depth = 0 ∧ k ≤ j) (readNumbered octal ds) :=
    fun octal ds i hi =>
      (simply_readNumbered octal ds).imp fun _ _ h => ⟨h.1, Nat.le_trans hi h.2⟩
  unfold readNumberEscape
  refine (keeps_takeChars isDecimalDigit 1).bind fun second j hsecond => ?_
  dsimp only
  split
  · exact alike_either (hthird j hsecond.2.2) (hnone j hsecond.2.2) fun third => hnumbered _ _
  · exact (hnone j hsecond.2.2).bind fun third => hnumbered _ _

theorem simply_readEscape {named : String → Option Char} {c : Char}
    (hmark : all[k]? = some (.escaped c)) : Simply calls all (k + 1) (readEscape named c) := by
  unfold readEscape
  split
  · exact keeps_pure ⟨rfl, Nat.le_refl _⟩
  · exact keeps_pure ⟨rfl, Nat.le_refl _⟩
  · exact keeps_pure ⟨rfl, Nat.le_refl _⟩
  · next hread _ _ _ =>
    exact (stays_of_characterEscape? hmark hread).bind fun _ j hj => keeps_pure ⟨rfl, hj⟩
  · refine alike_ite (fun _ => ?_) fun _ => ?_
    · exact (keeps_takeChars isOctal 2).bind fun ds j hds => keeps_pure ⟨rfl, hds.2.2⟩
    · refine alike_ite (fun _ => simply_readNumberEscape c) fun _ => ?_
      exact alike_ite (fun _ => keeps_malformed _ _) fun _ => keeps_pure ⟨rfl, Nat.le_refl _⟩

/-! ## Character classes -/

theorem stays_readClassItem {named : String → Option Char} {m : Mark} (hmark : all[k]? = some m) :
    Stays calls all (k + 1) (readClassItem named m) := by
  cases m with
  | plain c => exact keeps_pure (Nat.le_refl _)
  | escaped c => exact stays_readClassEscape hmark

/-- **The members of a class** are read in the same way whenever there is a unit of fuel for each
    mark. -/
theorem alike_readClassItems {named : String → Option Char} {start fuel : Nat}
    (hfuel : all.length < fuel + k) (acc : List ClassItem) :
    Alike calls all k (fun _ j => k ≤ j) (readClassItems named start fuel acc)
      (readClassItems named start (fuel + 1) acc) := by
  induction fuel generalizing acc k with
  | zero => exact alike_of_le fun hle => absurd hfuel (by omega)
  | succ fuel ih =>
    rw [readClassItems, readClassItems.eq_2 named start acc (fuel + 1)]
    refine keeps_next.bind fun m j hm => ?_
    cases m with
    | none => exact keeps_malformedAt _ _
    | some m =>
      obtain ⟨hmark, rfl⟩ := hm
      refine alike_ite (fun _ => keeps_pure (Nat.le_succ k)) fun _ => ?_
      refine (stays_readClassItem hmark).bind fun low i hi => ?_
      refine (keeps_accept '-').bind fun b i' hi' => alike_ite (fun _ => ?_) fun _ => ?_
      · -- a bracket behind a hyphen makes the hyphen a member
        refine keeps_next.bind fun m' i'' hm' => ?_
        cases m' with
        | none => exact keeps_malformedAt _ _
        | some m' =>
          obtain ⟨hmark', rfl⟩ := hm'
          refine alike_ite (fun _ => keeps_pure (by omega)) fun _ => ?_
          refine (stays_readClassItem hmark').bind fun high l hl => ?_
          cases rangeOf? low high with
          | none => exact keeps_malformed _ _
          | some range => exact (ih (by omega) _).imp fun _ _ h => by omega
      · exact (ih (by omega) _).imp fun _ _ h => by omega

theorem simply_readClass (named : String → Option Char) (start : Nat) :
    Simply calls all k (readClass named start) := by
  have hdepth : ∀ negated items, (classNode negated items).depth = 0 := by
    intro negated items
    unfold classNode
    split <;> rfl
  unfold readClass
  refine (keeps_accept '^').bind fun negated j hj => keeps_get.bind fun s i hs => ?_
  obtain ⟨rfl, hs⟩ := hs
  have hfuel : all.length < s.rest.length + 1 + i := by
    rw [hs.rest, List.length_drop]
    omega
  refine (alike_readClassItems hfuel []).left.bind fun items l hl => ?_
  exact keeps_pure ⟨hdepth negated items, by omega⟩

/-! ## Options -/

theorem chosenIn_none {o : Options} (h : o.alphabet = none) : ChosenIn all o := by
  intro a ha
  rw [h] at ha
  cases ha

theorem ChosenIn.union {o p : Options} (ho : ChosenIn all o) (hp : ChosenIn all p) :
    ChosenIn all (o.union p) := by
  intro a ha
  have hor : p.alphabet.or o.alphabet = some a := by
    rw [← ha, Options.union, Option.orElse_eq_orElse, Option.orElse_eq_or]
  rcases Option.or_eq_some_iff.1 hor with ha | ⟨-, ha⟩
  · exact hp a ha
  · exact ho a ha

/-- A letter that stands for an option chooses no alphabet but its own. -/
theorem chosenIn_of_optionOf? {c : Char} {o : Options} (h : optionOf? c = some o)
    (hc : .plain c ∈ all) : ChosenIn all o := by
  have hletter : ∀ a, o.alphabet = some a → c = a.letter := by
    unfold optionOf? at h
    intro a ha
    repeat' split at h
    all_goals cases h
    -- only two of the letters choose an alphabet
    all_goals cases ha
    all_goals assumption
  intro a ha
  rw [← hletter a ha]
  exact hc

/-- The letter of an option stands in the text. -/
theorem keeps_optionLetter (wanted : Wanted) {m : Option Mark} {j : Nat} (hm : NextOf all k m j) :
    Keeps calls all j (fun c i => .plain c ∈ all ∧ i = k + 1) (optionLetter wanted m) := by
  cases m with
  | none => exact keeps_malformed _ _
  | some m =>
    obtain ⟨hmark, rfl⟩ := hm
    cases m with
    | escaped c => exact keeps_malformed _ _
    | plain c =>
      have hmem : .plain c ∈ all := List.mem_of_getElem? hmark
      refine alike_ite (fun _ => keeps_pure ⟨hmem, rfl⟩) fun _ => ?_
      exact alike_ite (fun _ => keeps_malformed _ _) fun _ => keeps_malformed _ _

theorem alike_readOptionsOn {fuel : Nat} {acc : Options} {c : Char} (hfuel : all.length < fuel + k)
    (hacc : ChosenIn all acc) (hc : .plain c ∈ all) :
    Alike calls all k (fun p j => ChosenIn all p.1 ∧ k ≤ j) (readOptionsOn fuel acc c)
      (readOptionsOn (fuel + 1) acc c) := by
  induction fuel generalizing acc c k with
  | zero => exact alike_of_le fun hle => absurd hfuel (by omega)
  | succ fuel ih =>
    rw [readOptionsOn, readOptionsOn.eq_2 acc c (fuel + 1)]
    cases ho : optionOf? c with
    | none => exact keeps_malformed _ _
    | some o =>
      have hboth : ChosenIn all (acc.union o) := hacc.union (chosenIn_of_optionOf? ho hc)
      refine alike_check (fun _ => keeps_malformed _ _) fun _ => ?_
      refine keeps_next.bind fun m j hm => ?_
      have hj : k ≤ j := hm.le
      refine alike_ite (fun _ => keeps_pure ⟨hboth, hj⟩) fun _ => ?_
      refine alike_ite (fun _ => keeps_pure ⟨hboth, hj⟩) fun _ => ?_
      refine alike_ite (fun _ => keeps_pure ⟨hboth, hj⟩) fun _ => ?_
      refine (keeps_optionLetter _ hm).bind fun d i hd => ?_
      obtain ⟨hd, rfl⟩ := hd
      exact (ih (by omega) hboth hd).imp fun _ _ h => ⟨h.1, by omega⟩

theorem alike_readOptionsOff {fuel : Nat} {acc : Options} {c : Char}
    (hfuel : all.length < fuel + k) :
    Alike calls all k (fun _ j => k ≤ j) (readOptionsOff fuel acc c)
      (readOptionsOff (fuel + 1) acc c) := by
  induction fuel generalizing acc c k with
  | zero => exact alike_of_le fun hle => absurd hfuel (by omega)
  | succ fuel ih =>
    rw [readOptionsOff, readOptionsOff.eq_2 acc c (fuel + 1)]
    cases optionOf? c with
    | none => exact keeps_malformed _ _
    | some o =>
      refine alike_check (fun _ => keeps_malformed _ _) fun _ => ?_
      refine keeps_next.bind fun m j hm => ?_
      refine alike_ite (fun _ => keeps_pure hm.le) fun _ => ?_
      refine (keeps_optionLetter _ hm).bind fun d i hd => ?_
      obtain ⟨-, rfl⟩ := hd
      exact (ih (by omega)).imp fun _ _ h => by omega

/-- Two alphabets that are not the same are all there are. -/
theorem eq_or_eq_of_ne {a b : Alphabet} (h : a ≠ b) (c : Alphabet) : c = a ∨ c = b := by
  cases a <;> cases b <;> cases c <;> simp_all

theorem stays_setGlobal {o : Options} (ho : ChosenIn all o) : Stays calls all k (setGlobal o) := by
  refine stays_modify fun s hs => ⟨hs.rest, hs.le, hs.chosen.union ho, ?_⟩
  intro hconflict a
  rcases Bool.or_eq_true_iff.1 hconflict with hbefore | hnow
  · exact hs.conflict hbefore a
  · -- both alphabets stand in the text
    simp only [Bool.and_eq_true, Option.isSome_iff_exists, decide_eq_true_eq] at hnow
    obtain ⟨⟨⟨b, hb⟩, c, hc⟩, hne⟩ := hnow
    rw [hb, hc] at hne
    have hbc : b ≠ c := fun heq => hne (congrArg some heq)
    rcases eq_or_eq_of_ne hbc a with rfl | rfl
    · exact hs.chosen _ hb
    · exact ho _ hc

theorem stays_readGroupOptions {c : Char} (hc : .plain c ∈ all) :
    Stays calls all k (readGroupOptions c) := by
  have hempty : ChosenIn all {} := chosenIn_none rfl
  unfold readGroupOptions
  refine keeps_get.bind fun s j hs => ?_
  obtain ⟨rfl, hs⟩ := hs
  have hfuel : all.length < s.rest.length + 1 + j := by
    rw [hs.rest, List.length_drop]
    omega
  have hminus : Keeps calls all j (fun p i => ChosenIn all p.1 ∧ j ≤ i)
      (pure (({} : Options), OptionsEnd.minus)) := keeps_pure ⟨hempty, Nat.le_refl j⟩
  refine alike_either hminus (alike_readOptionsOn hfuel hempty hc).left fun p i hp => ?_
  obtain ⟨on, ending⟩ := p
  obtain ⟨hon, hi⟩ := hp
  cases ending with
  | close => exact (stays_setGlobal hon).bind fun _ _ hl => keeps_pure (Nat.le_trans hi hl)
  | colon => exact alike_check (fun _ => keeps_malformed _ _) fun _ => keeps_pure hi
  | minus =>
    refine alike_check (fun _ => keeps_malformed _ _) fun _ => ?_
    refine keeps_next.bind fun m l hm => (keeps_optionLetter _ hm).bind fun d l' hd => ?_
    obtain ⟨-, rfl⟩ := hd
    refine (alike_readOptionsOff (by omega)).left.bind fun off l'' hl'' => ?_
    refine alike_check (fun _ => keeps_malformed _ _) fun _ => ?_
    exact alike_check (fun _ => keeps_malformed _ _) fun _ => keeps_pure (by omega)

/-! ## Repetition -/

/-- A number that is read from digits in the text. -/
theorem keeps_repetitionNumber {ds : List Char} (h : RunIn all isDecimalDigit ds) :
    Keeps calls all k (fun _ j => j = k) (repetitionNumber ds) := by
  unfold repetitionNumber
  refine alike_check (fun hmany => keeps_throw (.digits ds h hmany)) fun _ => ?_
  refine alike_check (fun hlarge => keeps_throw (.repetition ds h hlarge)) fun _ => ?_
  exact keeps_pure rfl

theorem stays_readBounds : Stays calls all k readBounds := by
  unfold readBounds
  refine keeps_get.bind fun s j hs => ?_
  obtain ⟨rfl, hs⟩ := hs
  have hback : ∀ i t, Within all i t →
      Within all j { t with rest := s.rest, position := s.position } :=
    fun _ t ht => ⟨hs.rest, hs.le, ht.chosen, ht.conflict⟩
  refine keeps_peek.bind fun m i hm => ?_
  obtain ⟨-, rfl⟩ := hm
  refine alike_ite (fun _ => keeps_pure (Nat.le_refl _)) fun _ => ?_
  refine (keeps_takeAllChars isDecimalDigit).bind fun low l hlow => ?_
  refine (keeps_accept ',').bind fun comma l₁ hcomma => ?_
  have hhigh : Keeps calls all l₁ (fun ds l => RunIn all isDecimalDigit ds ∧ i ≤ l)
      (takeAllChars isDecimalDigit) :=
    (keeps_takeAllChars isDecimalDigit).imp fun _ _ h => ⟨h.1.run, by omega⟩
  refine alike_either hhigh (keeps_pure ⟨hlow.1.run, by omega⟩) fun high l₂ hhigh => ?_
  refine (keeps_accept _).bind fun closed l₃ hclosed => ?_
  -- without a closing brace nothing has been read
  refine alike_ite (fun _ => ?_) fun _ => ?_
  · exact (keeps_modify (hback _)).bind fun _ _ hl => keeps_pure hl.ge
  · refine (keeps_repetitionNumber hlow.1.run).bind fun least l₄ hl₄ => ?_
    refine alike_ite (fun _ => keeps_pure (by omega)) fun _ => ?_
    refine (keeps_repetitionNumber hhigh.1).bind fun most l₅ hl₅ => ?_
    exact alike_check (fun _ => keeps_malformedAt _ _) fun _ => keeps_pure (by omega)

theorem keeps_readGreed : Stays calls all k readGreed := by
  unfold readGreed
  refine (keeps_accept '?').bind fun b j hj => alike_ite (fun _ => keeps_pure hj.1) fun _ => ?_
  refine (keeps_accept '+').bind fun b' i hi => ?_
  exact alike_ite (fun _ => keeps_pure (by omega)) fun _ => keeps_pure (by omega)

/-- A repetition takes its own sign, which pays for the depth that it adds. -/
theorem keeps_repeatLast {start b : Nat} {bounds : Nat × Option Nat} {items : List Node}
    (hk : b + depthOfAll items < k) :
    Keeps calls all k (fun ns j => k ≤ j ∧ b + depthOfAll ns ≤ k)
      (repeatLast start bounds items) := by
  cases items with
  | nil => exact keeps_malformedAt _ _
  | cons item rest =>
    rw [repeatLast]
    cases unrepeatable? item with
    | some flaw => exact keeps_malformedAt _ _
    | none =>
      refine keeps_readGreed.bind fun greed j hj => keeps_pure ⟨hj, ?_⟩
      simp only [depthOfAll, Node.depth] at hk ⊢
      split <;> omega

/-! ## Names -/

theorem stays_checkGroupName (name : List Char) : Stays calls all k (checkGroupName name) := by
  unfold checkGroupName
  exact alike_ite (fun _ => keeps_malformed _ _) fun _ => keeps_pure (Nat.le_refl _)

theorem stays_conditionGroup (name : List Char) : Stays calls all k (conditionGroup name) := by
  unfold conditionGroup
  refine keeps_get.bind fun s j hs => ?_
  obtain ⟨rfl, hs⟩ := hs
  have hnote : ∀ conditions, Within all j { s with conditions } :=
    fun _ => ⟨hs.rest, hs.le, hs.chosen, hs.conflict⟩
  refine alike_ite (fun _ => ?_) fun _ => ?_
  · split
    · exact keeps_pure (Nat.le_refl _)
    · exact keeps_malformed _ _
  · split
    · exact keeps_malformed _ _
    · refine alike_check (fun _ => keeps_malformed _ _) fun _ => ?_
      refine alike_check (fun _ => keeps_malformed _ _) fun _ => ?_
      exact (keeps_set (hnote _)).bind fun _ _ hi => keeps_pure hi.ge

theorem simply_readNamedReference : Simply calls all k readNamedReference := by
  unfold readNamedReference
  refine (stays_takeName _ _).bind fun name j hj => ?_
  refine (stays_checkGroupName name).after hj fun _ i hi => ?_
  refine keeps_get.bind fun s l hs => ?_
  obtain ⟨rfl, -⟩ := hs
  split
  · exact keeps_malformed _ _
  · exact (stays_checkReference _ _).after hi fun _ l hl => keeps_pure ⟨rfl, hl⟩

/-! ## Ends of groups -/

theorem stays_beginBehind : Stays calls all k beginBehind := by
  unfold beginBehind
  refine keeps_get.bind fun s j hs => ?_
  obtain ⟨rfl, hs⟩ := hs
  have hlimit : ∀ behindLimit, Within all j { s with behindLimit } :=
    fun _ => ⟨hs.rest, hs.le, hs.chosen, hs.conflict⟩
  exact (keeps_set (hlimit _)).bind fun _ _ hi => keeps_pure hi.ge

theorem stays_endBehind (outer : Option Nat) : Stays calls all k (endBehind outer) := by
  unfold endBehind
  exact stays_modify fun s hs => ⟨hs.rest, hs.le, hs.chosen, hs.conflict⟩

/-- The mark that is taken, if one is, is the next one of the text. -/
theorem keeps_takeMark : Keeps calls all k (NextOf all k) takeMark := by
  unfold takeMark
  refine keeps_peek.bind fun m j hm => ?_
  obtain ⟨hm, rfl⟩ := hm
  cases m with
  | none => exact keeps_pure rfl
  | some m =>
    refine alike_ite (fun _ => keeps_pure rfl) fun _ => ?_
    have hlt := lt_length_of_eq_some hm
    exact (keeps_skip 1).bind fun _ i hi => keeps_pure ⟨hm.symm, by omega⟩

theorem stays_readGroupEnd (start : Nat) : Stays calls all k (readGroupEnd start) := by
  unfold readGroupEnd
  refine (keeps_accept _).bind fun closed j hj => ?_
  exact alike_ite (fun _ => keeps_malformedAt _ _) fun _ => keeps_pure hj.1

end SourceCensus.Pattern
