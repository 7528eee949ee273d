import SourceCensus.Proofs.Occurrence
import Mathlib.Data.List.Basic
import Mathlib.Data.List.TakeWhile

/-! # Runs of characters of one kind

    A run of characters of one kind is taken whole when nothing of that kind stands behind it, so
    most of what is said about reading says what is not ahead of a place (`NoneAhead`), or not
    before it (`NoneBehind`).

    Main results:

    - `mem_runs_iff`. The runs of a text, with their offsets, are the stretches of one kind of
      character that no such character stands directly before or after.
    - `IsRunAt.apart`, `pairwise_runs`. Runs lie apart, with a character of another kind in between.
    - `occurrences_eq_of_runs`. A search that finds something in some of the runs, at their first
      characters, finds it once in each of them and in their order.
-/

namespace SourceCensus.Rule

variable {p q : Char → Bool} {t u v w x : Text} {c : Char} {n o : Nat}

/-! ## What is not next to a place -/

/-- The text does not begin with a character of a kind. -/
def NoneAhead (p : Char → Bool) (t : Text) : Prop := ∀ c ∈ t.head?, p c = false

/-- The text does not end with a character of a kind. -/
def NoneBehind (p : Char → Bool) (t : Text) : Prop := ∀ c ∈ t.getLast?, p c = false

@[simp] theorem noneAhead_nil : NoneAhead p [] := by simp [NoneAhead]

@[simp] theorem noneAhead_cons : NoneAhead p (c :: t) ↔ p c = false := by simp [NoneAhead]

@[simp] theorem noneBehind_nil : NoneBehind p [] := by simp [NoneBehind]

@[simp] theorem noneBehind_concat : NoneBehind p (t ++ [c]) ↔ p c = false := by simp [NoneBehind]

/-- A character of a kind as a search sees it. -/
theorem noneBehind_iff_any : NoneBehind p t ↔ t.getLast?.any p = false := by
  unfold NoneBehind
  cases t.getLast? <;> simp

instance : Decidable (NoneAhead p t) :=
  decidable_of_iff (t.head?.any p = false) (by unfold NoneAhead; cases t.head? <;> simp)

theorem NoneAhead.append (hx : NoneAhead p x) (ht : NoneAhead p t) : NoneAhead p (x ++ t) := by
  cases x with
  | nil => exact ht
  | cons c x => exact noneAhead_cons.2 (noneAhead_cons.1 hx)

theorem noneBehind_append_iff (hx : x ≠ []) : NoneBehind p (t ++ x) ↔ NoneBehind p x := by
  rw [NoneBehind, NoneBehind, List.getLast?_append_of_ne_nil t hx]

theorem NoneBehind.append (ht : NoneBehind p t) (hx : NoneBehind p x) :
    NoneBehind p (t ++ x) := by
  by_cases hne : x = []
  · rwa [hne, List.append_nil]
  · exact (noneBehind_append_iff hne).2 hx

theorem NoneBehind.of_append (h : NoneBehind p (t ++ x)) : NoneBehind p x := by
  by_cases hne : x = []
  · exact hne ▸ noneBehind_nil
  · exact (noneBehind_append_iff hne).1 h

theorem NoneAhead.mono (h : ∀ c, p c = true → q c = true) (hq : NoneAhead q t) :
    NoneAhead p t := by
  intro c hc
  rw [← Bool.not_eq_true]
  intro hp
  exact Bool.false_ne_true ((hq c hc).symm.trans (h c hp))

theorem NoneAhead.of_prefix (hx : x <+: t) (ht : NoneAhead p t) : NoneAhead p x := by
  obtain ⟨y, rfl⟩ := hx
  cases x with
  | nil => exact noneAhead_nil
  | cons c x => exact noneAhead_cons.2 (noneAhead_cons.1 ht)

theorem NoneAhead.eq_nil (ht : NoneAhead p (x ++ t)) (hall : ∀ c ∈ x, p c = true) : x = [] := by
  cases x with
  | nil => rfl
  | cons c x =>
    have hno := noneAhead_cons.1 ht
    rw [hall c List.mem_cons_self] at hno
    cases hno

theorem NoneBehind.eq_nil (ht : NoneBehind p t) (hall : ∀ c ∈ t, p c = true) : t = [] := by
  rcases List.eq_nil_or_concat t with rfl | ⟨t, c, rfl⟩
  · rfl
  · rw [List.concat_eq_append] at ht hall
    have hno := noneBehind_concat.1 ht
    rw [hall c (by simp)] at hno
    cases hno

/-! ## Taking a run -/

theorem takeWhile_append_of_noneAhead (hx : ∀ c ∈ x, p c = true) (ht : NoneAhead p t) :
    (x ++ t).takeWhile p = x := by
  rw [List.takeWhile_append_of_pos hx]
  cases t with
  | nil => rw [List.takeWhile_nil, List.append_nil]
  | cons c t =>
    rw [List.takeWhile_cons_of_neg (by rw [noneAhead_cons.1 ht]; exact Bool.false_ne_true),
      List.append_nil]

theorem dropWhile_append_of_noneAhead (hx : ∀ c ∈ x, p c = true) (ht : NoneAhead p t) :
    (x ++ t).dropWhile p = t := by
  rw [List.dropWhile_append_of_pos hx]
  cases t with
  | nil => rfl
  | cons c t =>
    exact List.dropWhile_cons_of_neg (by rw [noneAhead_cons.1 ht]; exact Bool.false_ne_true)

theorem noneAhead_drop_takeWhile (p : Char → Bool) (t : Text) :
    NoneAhead p (t.drop (t.takeWhile p).length) := by
  induction t with
  | nil => exact noneAhead_nil
  | cons c t ih =>
    by_cases hc : p c = true
    · rw [List.takeWhile_cons_of_pos hc]
      exact ih
    · rw [List.takeWhile_cons_of_neg hc]
      exact noneAhead_cons.2 (Bool.eq_false_iff.2 hc)

theorem takeWhile_append_drop (p : Char → Bool) (t : Text) :
    t.takeWhile p ++ t.drop (t.takeWhile p).length = t :=
  List.prefix_iff_eq_append.1 (List.takeWhile_prefix p)

/-! ## Runs and their places -/

/-- A stretch of characters of one kind that no such character stands directly before or after. -/
structure IsRunAt (p : Char → Bool) (t : Text) (o : Nat) (w : Text) : Prop where
  splits : ∃ u v, t = u ++ (w ++ v) ∧ u.length = o ∧ NoneBehind p u ∧ NoneAhead p v
  ne_nil : w ≠ []
  all_kind : ∀ c ∈ w, p c = true

theorem isRunAt_cons (hc : p c = false) :
    IsRunAt p (c :: t) o w ↔ ∃ m, o = m + 1 ∧ IsRunAt p t m w := by
  constructor
  · intro h
    obtain ⟨⟨u, v, ht, ho, hu, hv⟩, hne, hw⟩ := h
    cases u with
    | nil =>
      -- the run would begin with a character of another kind
      have hahead : NoneAhead p (w ++ v) := ht ▸ noneAhead_cons.2 hc
      exact absurd (hahead.eq_nil hw) hne
    | cons d u =>
      obtain ⟨rfl, rfl⟩ := List.cons.inj ht
      exact ⟨u.length, ho.symm, ⟨u, v, rfl, rfl, hu.of_append (t := [c]), hv⟩, hne, hw⟩
  · intro h
    obtain ⟨m, rfl, ⟨u, v, rfl, rfl, hu, hv⟩, hne, hw⟩ := h
    refine ⟨⟨c :: u, v, rfl, rfl, ?_, hv⟩, hne, hw⟩
    exact NoneBehind.append (noneBehind_concat (t := []).2 hc) hu

/-- **Behind a run** the runs of a text are those of the rest, and the run itself is one. -/
theorem isRunAt_append (hne : x ≠ []) (hx : ∀ c ∈ x, p c = true) (ht : NoneAhead p t) :
    IsRunAt p (x ++ t) o w ↔ o = 0 ∧ w = x ∨ ∃ m, o = x.length + m ∧ IsRunAt p t m w := by
  constructor
  · intro h
    obtain ⟨⟨u, v, hsplit, ho, hu, hv⟩, hwne, hw⟩ := h
    rcases List.append_eq_append_iff.1 hsplit with ⟨y, rfl, rfl⟩ | ⟨y, rfl, hy⟩
    · -- the run stands behind the first one, with `y` in between
      have hplace : o = x.length + y.length := by rw [← ho, List.length_append]
      exact .inr ⟨y.length, hplace, ⟨y, v, rfl, rfl, hu.of_append, hv⟩, hwne, hw⟩
    · -- the first run reaches into this one, and nothing of it can stand before this one
      have hnil : u = [] := hu.eq_nil fun c hc => hx c (List.mem_append_left y hc)
      subst hnil
      refine .inl ⟨ho.symm, ?_⟩
      have hrun := takeWhile_append_of_noneAhead hx ht
      rw [hsplit, List.nil_append, takeWhile_append_of_noneAhead hw hv] at hrun
      exact hrun
  · rintro (⟨rfl, rfl⟩ | ⟨m, rfl, ⟨u, v, rfl, rfl, hu, hv⟩, hwne, hw⟩)
    · exact ⟨⟨[], t, rfl, rfl, noneBehind_nil, ht⟩, hne, hx⟩
    · refine ⟨⟨x ++ u, v, by rw [List.append_assoc], List.length_append, ?_, hv⟩, hwne, hw⟩
      by_cases hnil : u = []
      · -- then this run would begin right behind the first one
        rw [hnil, List.nil_append] at ht
        exact absurd (ht.eq_nil hw) hwne
      · exact (noneBehind_append_iff hnil).2 hu

/-- **A run seen from its place:** it is what stands there up to a character of another kind. -/
theorem isRunAt_iff : IsRunAt p t o w ↔ NoneBehind p (t.take o) ∧
    (∃ v, t.drop o = w ++ v ∧ NoneAhead p v) ∧ w ≠ [] ∧ ∀ c ∈ w, p c = true := by
  constructor
  · intro h
    obtain ⟨⟨u, v, rfl, rfl, hu, hv⟩, hne, hw⟩ := h
    rw [List.take_left, List.drop_left]
    exact ⟨hu, ⟨v, rfl, hv⟩, hne, hw⟩
  · intro h
    obtain ⟨hu, ⟨v, hdrop, hv⟩, hne, hw⟩ := h
    refine ⟨⟨t.take o, v, ?_, ?_, hu, hv⟩, hne, hw⟩
    · rw [← hdrop, List.take_append_drop]
    · -- the text reaches to the place, since the run stands there
      have hlength := congrArg List.length hdrop
      have hpos := List.length_pos_iff.2 hne
      rw [List.length_drop, List.length_append] at hlength
      rw [List.length_take]
      omega

theorem isRunAt_takeWhile (hbehind : NoneBehind p (t.take o))
    (hne : (t.drop o).takeWhile p ≠ []) : IsRunAt p t o ((t.drop o).takeWhile p) :=
  isRunAt_iff.2 ⟨hbehind, ⟨_, (takeWhile_append_drop p _).symm, noneAhead_drop_takeWhile p _⟩, hne,
    fun _ hc => List.mem_takeWhile_imp hc⟩

namespace IsRunAt

theorem eq_takeWhile (h : IsRunAt p t o w) : w = (t.drop o).takeWhile p := by
  obtain ⟨-, ⟨v, hdrop, hv⟩, -, hw⟩ := isRunAt_iff.1 h
  rw [hdrop, takeWhile_append_of_noneAhead hw hv]

theorem lt_length (h : IsRunAt p t o w) : o < t.length := by
  obtain ⟨⟨u, v, rfl, rfl, -, -⟩, hne, -⟩ := h
  have hpos := List.length_pos_iff.2 hne
  simp only [List.length_append]
  omega

/-- At one place there is one run. -/
theorem unique (h : IsRunAt p t o w) (h' : IsRunAt p t o x) : w = x :=
  h.eq_takeWhile.trans h'.eq_takeWhile.symm

/-- **Runs lie apart,** with a character of another kind in between. -/
theorem apart {o' : Nat} (h : IsRunAt p t o w) (h' : IsRunAt p t o' x) (hlt : o < o') :
    o + w.length < o' := by
  obtain ⟨hbehind, ⟨v, hdrop, hv⟩, hne, hw⟩ := isRunAt_iff.1 h
  obtain ⟨hbehind', ⟨v', hdrop', hv'⟩, hne', hx⟩ := isRunAt_iff.1 h'
  apply Nat.lt_of_not_le
  intro hle
  -- the character before the second run would be one of the first run
  obtain ⟨j, rfl⟩ := Nat.exists_eq_add_of_lt hlt
  have hin : j < w.length := by omega
  have hlast : t[o + j]? = some w[j] := by
    rw [← List.getElem?_drop, hdrop, List.getElem?_append_left hin, List.getElem?_eq_getElem hin]
  have hnone : p w[j] = false := by
    apply hbehind'
    rw [List.getLast?_take, if_neg (Nat.succ_ne_zero _), Nat.add_sub_cancel, hlast]
    rfl
  rw [hw _ (List.getElem_mem hin)] at hnone
  cases hnone

end IsRunAt

/-! ## All runs of a text -/

/-- The maximal runs of characters of one kind in a text that begins at `offset`, each with its own
    offset. -/
def runsFrom (p : Char → Bool) (offset : Nat) : Text → List (Nat × Text)
  | [] => []
  | c :: rest =>
    if p c then
      let tail := rest.takeWhile p
      (offset, c :: tail) :: runsFrom p (offset + 1 + tail.length) (rest.drop tail.length)
    else runsFrom p (offset + 1) rest
termination_by t => t.length
decreasing_by all_goals simp +arith

/-- The maximal runs of characters of one kind in a text, with their offsets. -/
def runs (p : Char → Bool) (t : Text) : List (Nat × Text) := runsFrom p 0 t

/-- A character of another kind is passed over, and a run is taken whole. -/
theorem mem_runsFrom_iff (p : Char → Bool) (n : Nat) (t : Text) :
    (o, w) ∈ runsFrom p n t ↔ ∃ m, o = n + m ∧ IsRunAt p t m w := by
  fun_induction runsFrom p n t with
  | case1 n =>
    constructor
    · -- an empty text has no runs
      intro h
      cases h
    · intro h
      obtain ⟨m, -, hm⟩ := h
      exact absurd hm.lt_length (Nat.not_lt_zero m)
  | case2 n c rest hc tail ih =>
    have hrun : ∀ d ∈ c :: tail, p d = true := by
      intro d hd
      rcases List.mem_cons.1 hd with rfl | hd
      · exact hc
      · exact List.mem_takeWhile_imp hd
    have hsplit : c :: rest = (c :: tail) ++ rest.drop tail.length := by
      rw [List.cons_append, takeWhile_append_drop]
    -- the run is the first one, and the others are counted from behind it
    have hruns : ∀ k, IsRunAt p (c :: tail ++ rest.drop tail.length) k w ↔
        k = 0 ∧ w = c :: tail ∨
          ∃ m, k = tail.length + 1 + m ∧ IsRunAt p (rest.drop tail.length) m w :=
      fun k => isRunAt_append (List.cons_ne_nil c tail) hrun (noneAhead_drop_takeWhile p rest)
    simp only [hsplit, hruns, List.mem_cons, ih, Prod.mk.injEq]
    constructor
    · rintro (⟨rfl, rfl⟩ | ⟨m, rfl, hm⟩)
      · exact ⟨0, rfl, .inl ⟨rfl, rfl⟩⟩
      · exact ⟨tail.length + 1 + m, by omega, .inr ⟨m, rfl, hm⟩⟩
    · rintro ⟨k, rfl, ⟨rfl, rfl⟩ | ⟨m, rfl, hm⟩⟩
      · exact .inl ⟨rfl, rfl⟩
      · exact .inr ⟨m, by omega, hm⟩
  | case3 n c rest hc ih =>
    -- a character of another kind moves the places by one
    rw [ih]
    constructor
    · intro h
      obtain ⟨m, rfl, hm⟩ := h
      exact ⟨m + 1, by omega, (isRunAt_cons (Bool.eq_false_iff.2 hc)).2 ⟨m, rfl, hm⟩⟩
    · intro h
      obtain ⟨k, rfl, hk⟩ := h
      obtain ⟨m, rfl, hm⟩ := (isRunAt_cons (Bool.eq_false_iff.2 hc)).1 hk
      exact ⟨m, by omega, hm⟩

/-- **The runs of a text** are its stretches of one kind that are as long as can be. -/
theorem mem_runs_iff : (o, w) ∈ runs p t ↔ IsRunAt p t o w := by
  rw [runs, mem_runsFrom_iff]
  constructor
  · intro h
    obtain ⟨m, rfl, hm⟩ := h
    rwa [Nat.zero_add]
  · intro h
    exact ⟨o, (Nat.zero_add o).symm, h⟩

theorem pairwise_runsFrom (p : Char → Bool) (n : Nat) (t : Text) :
    (runsFrom p n t).Pairwise fun r s => r.1 < s.1 := by
  fun_induction runsFrom p n t with
  | case1 n => exact .nil
  | case2 n c rest hc tail ih =>
    apply List.Pairwise.cons _ ih
    intro s hs
    obtain ⟨m, hm, -⟩ := (mem_runsFrom_iff p _ _).1 hs
    show n < s.1
    omega
  | case3 n c rest hc ih => exact ih

/-- Runs come in the order of their places, and lie apart. -/
theorem pairwise_runs (p : Char → Bool) (t : Text) :
    (runs p t).Pairwise fun r s => r.1 + r.2.length < s.1 := by
  apply (pairwise_runsFrom p 0 t).imp_of_mem
  intro r s hr hs hlt
  exact (mem_runs_iff.1 hr).apart (mem_runs_iff.1 hs) hlt

/-! ## Searching in runs -/

/-- Ascending lists with the same members are the same. -/
theorem eq_of_ascending {ms ns : List Nat} (hms : ms.Pairwise (· < ·)) (hns : ns.Pairwise (· < ·))
    (hmem : ∀ n, n ∈ ms ↔ n ∈ ns) : ms = ns := by
  have hperm : ms.Perm ns :=
    (List.perm_ext_iff_of_nodup (hms.imp Nat.ne_of_lt) (hns.imp Nat.ne_of_lt)).2 hmem
  apply hperm.eq_of_pairwise _ hms hns
  intro a b _ _ hab hba
  exact absurd hab (Nat.lt_asymm hba)

/-- **Once in each run.** A search that finds something where some of the runs begin, and nowhere
    else, finds it in these runs one after the other. -/
theorem occurrences_eq_of_runs {r : Recogniser} {P : Nat × Text → Prop} [DecidablePred P]
    (h : ∀ o, o ∈ r.occurrences t ↔ ∃ w, IsRunAt p t o w ∧ P (o, w)) :
    r.occurrences t = ((runs p t).filter fun run => P run).map Prod.fst := by
  apply eq_of_ascending
  · exact (r.pairwise_occurrences t).imp And.left
  · rw [List.pairwise_map]
    apply ((pairwise_runs p t).filter _).imp
    intro run next hlt
    omega
  · intro o
    rw [h]
    simp only [List.mem_map, List.mem_filter, decide_eq_true_eq, Prod.exists, mem_runs_iff]
    constructor
    · intro hrun
      obtain ⟨w, hw, hP⟩ := hrun
      exact ⟨o, w, ⟨hw, hP⟩, rfl⟩
    · intro hrun
      obtain ⟨o', w, hw, rfl⟩ := hrun
      exact ⟨w, hw⟩

/-- Where everything that can be matched lies in a run and begins it, a search finds all of it. -/
theorem mem_occurrences_iff_of_inside {r : Recogniser}
    (h : ∀ o n, r.matchAt t o = some n → ∃ w, IsRunAt p t o w ∧ n ≤ w.length) :
    o ∈ r.occurrences t ↔ (r.matchAt t o).isSome := by
  constructor
  · exact Recogniser.isSome_of_mem_occurrences
  · intro hsome
    obtain ⟨n, hn⟩ := Option.isSome_iff_exists.1 hsome
    obtain ⟨w, hw, -⟩ := h o n hn
    rcases Recogniser.mem_occurrences_or_covered hw.lt_length hsome with hmem |
      ⟨q, -, m, hm, hlt, hcovered⟩
    · exact hmem
    · -- a run does not begin inside of another one
      obtain ⟨x, hx, hle⟩ := h q m hm
      have := hx.apart hw hlt
      omega

end SourceCensus.Rule
