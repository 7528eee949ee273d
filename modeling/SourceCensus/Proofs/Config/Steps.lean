import SourceCensus.Config.Check
import SourceCensus.Proofs.Number.Digits
import SourceCensus.Proofs.Success

/-! # What the steps of a check do

    Each step of a check is described in three ways.

    * **What it gives.** `Gives P x` says that whatever the step gives has a property, for a strict
      check and a lenient one alike.
    * **Whether it goes through.** `Passes x` says that the step stops at no fault. Lenient steps
      all pass, with one exception: a count that is `Stranded`, a text of digits of which one has
      no place value, stops even a lenient check (`stops_checkCount`).
    * **What it leaves alone.** A value that has the right form already is given back as it is,
      without a remark (`checkText_of_trimmed` and its kin).
-/

namespace SourceCensus.Config

open Json (Value)
open Text

variable {α β : Type} {P : α → Prop} {Q : β → Prop} {x : Checking α} {f : α → Checking β}
  {strict : Bool} {field : String} {fault : Fault} {r : Fault → Remark} {a : α} {v : Value}

/-! ## Steps one after the other -/

/-- What a step gives, if it goes through, has a property. -/
def Gives (P : α → Prop) (x : Checking α) : Prop :=
  ∀ before a after, x.run before = .ok (a, after) → P a

/-- A step goes through, whatever was remarked before. -/
def Passes (x : Checking α) : Prop := ∀ before, ∃ a after, x.run before = .ok (a, after)

/-- A step stops at a fault, whatever was remarked before. -/
def Stops (fault : Fault) (x : Checking α) : Prop := ∀ before, x.run before = .error fault

theorem gives_pure (h : P a) : Gives P (pure a) := by
  intro before b after hrun
  cases hrun
  exact h

theorem gives_throw (fault : Fault) : Gives P (throw fault) := by
  intro before a after hrun
  cases hrun

theorem Gives.bind (hx : Gives P x) (hf : ∀ a, P a → Gives Q (f a)) : Gives Q (x >>= f) := by
  intro before b after hrun
  rw [StateT.run_bind] at hrun
  obtain ⟨⟨a, between⟩, hfirst, hsecond⟩ := bind_eq_ok hrun
  exact hf a (hx before a between hfirst) between b after hsecond

/-- A step of which nothing is asked. -/
theorem Gives.after (hf : ∀ a, Gives Q (f a)) : Gives Q (x >>= f) := by
  have hx : Gives (fun _ => True) x := fun _ _ _ _ => trivial
  exact hx.bind fun a _ => hf a

theorem passes_pure (a : α) : Passes (pure a) := fun before => ⟨a, before, rfl⟩

theorem passes_remark (r : Remark) : Passes (remark r) := fun before => ⟨(), before ++ [r], rfl⟩

theorem Passes.bind (hx : Passes x) (hf : ∀ a, Passes (f a)) : Passes (x >>= f) := by
  intro before
  obtain ⟨a, between, hfirst⟩ := hx before
  obtain ⟨b, after, hsecond⟩ := hf a between
  refine ⟨b, after, ?_⟩
  rw [StateT.run_bind, hfirst]
  exact hsecond

/-- What comes after a step that stops is not reached. -/
theorem Stops.bind (hx : Stops fault x) : Stops fault (x >>= f) := by
  intro before
  rw [StateT.run_bind, hx before]
  rfl

/-- What comes after a step that passes is reached. -/
theorem Passes.stops (hx : Passes x) (hf : ∀ a, Stops fault (f a)) : Stops fault (x >>= f) := by
  intro before
  obtain ⟨a, between, hfirst⟩ := hx before
  rw [StateT.run_bind, hfirst]
  exact hf a between

/-! ## Faults that are reported -/

/-- A strict check gives nothing after a fault, and a lenient one the value in its place. -/
theorem gives_report (h : P a) : Gives P (do report strict fault r; return a) :=
  Gives.after fun _ => gives_pure h

theorem passes_report : Passes (report false fault r) := passes_remark (r fault)

/-- A lenient check goes on after a fault. -/
theorem passes_fallback (a : α) : Passes (do report false fault r; return a) :=
  passes_report.bind fun _ => passes_pure a

/-! ## Texts -/

/-- A text that is given has no white space at its ends, unless it is the default. -/
theorem gives_checkText {fallback : String} :
    Gives (fun s => Trimmed fallback → Trimmed s) (checkText strict field fallback v) := by
  cases v with
  | null => exact gives_pure id
  | string s => exact gives_pure fun _ => trimmed_stripString s
  | _ => exact gives_report id

theorem passes_checkText {fallback : String} : Passes (checkText false field fallback v) := by
  cases v with
  | null => exact passes_pure fallback
  | string s => exact passes_pure (stripString s)
  | _ => exact passes_fallback fallback

theorem checkText_of_trimmed {s fallback : String} (h : Trimmed s) :
    checkText strict field fallback (.string s) = pure s := by
  rw [checkText, stripString_of_trimmed h]

/-! ## Truth values -/

theorem passes_checkBool {fallback : Bool} : Passes (checkBool false field fallback v) := by
  unfold checkBool
  cases v with
  | null => exact passes_pure fallback
  | bool b => exact passes_pure b
  | string s =>
    dsimp only
    split
    · exact (passes_remark _).bind fun _ => passes_pure _
    · exact passes_fallback fallback
  | _ =>
    dsimp only
    split
    · exact (passes_remark _).bind fun _ => passes_pure _
    · exact passes_fallback fallback

/-! ## Counts -/

/-- A value is given as a text of digits, of which one at least has no place value. -/
def Stranded (v : Value) (text : String) : Prop :=
  ∃ s, v = .string s ∧ stripString s = text ∧ isDigits text = true ∧
    ∃ c ∈ text.toList, isDecimal c = false

theorem gives_checkPositive {fallback n : Int} (h : 1 ≤ fallback) :
    Gives (1 ≤ ·) (checkPositive strict field fallback n) := by
  unfold checkPositive
  split
  · exact gives_report h
  · exact gives_pure (by omega)

/-- **A count is at least one,** when the default is. -/
theorem gives_checkCount {fallback : Int} (h : 1 ≤ fallback) :
    Gives (1 ≤ ·) (checkCount strict field fallback v) := by
  unfold checkCount
  cases v with
  | null => exact gives_pure h
  | int n => exact gives_checkPositive h
  | string s =>
    dsimp only
    split
    · -- a text of digits that cannot be read gives nothing
      refine Gives.after fun _ => ?_
      split
      · exact gives_checkPositive h
      · exact gives_throw _
    · exact gives_report h
  | _ => exact gives_report h

theorem passes_checkPositive {fallback n : Int} :
    Passes (checkPositive false field fallback n) := by
  unfold checkPositive
  split
  · exact passes_fallback fallback
  · exact passes_pure n

/-- A text of digits can be read exactly when all of them are decimal. -/
theorem isSome_readInteger?_of_isDigits {s : String} (h : isDigits s = true) :
    (Number.readInteger? s.toList).isSome = s.toList.all isDecimal := by
  unfold isDigits at h
  rw [Bool.and_eq_true, List.all_eq_true] at h
  obtain ⟨hne, hdigits⟩ := h
  refine Number.isSome_readInteger?_of_digits ?_ hdigits
  rintro hnil
  simp [String.toList_eq_nil_iff.1 hnil] at hne

/-- A lenient check takes every count that is not stranded. -/
theorem passes_checkCount {fallback : Int} (h : ∀ text, ¬ Stranded v text) :
    Passes (checkCount false field fallback v) := by
  unfold checkCount
  cases v with
  | null => exact passes_pure fallback
  | int n => exact passes_checkPositive
  | string s =>
    dsimp only
    split
    · rename_i hdigits
      refine (passes_remark _).bind fun _ => ?_
      split
      · exact passes_checkPositive
      · -- a text that cannot be read has a digit that is not decimal
        rename_i hunread
        have hread := isSome_readInteger?_of_isDigits (by simpa using hdigits)
        rw [hunread, Option.isSome_none, eq_comm, List.all_eq_false] at hread
        obtain ⟨c, hc, hdecimal⟩ := hread
        exact absurd ⟨s, rfl, rfl, by simpa using hdigits, c, hc, by simpa using hdecimal⟩
          (h (stripString s))
    · exact passes_fallback fallback
  | _ => exact passes_fallback fallback

/-- **A stranded count stops even a lenient check.** -/
theorem stops_checkCount {fallback : Int} {text : String} (h : Stranded v text) :
    Stops (.unreadable text) (checkCount false field fallback v) := by
  obtain ⟨s, rfl, rfl, hdigits, c, hc, hdecimal⟩ := h
  -- the digit without a place value keeps the text from being read
  have hread := isSome_readInteger?_of_isDigits hdigits
  have hall : (stripString s).toList.all isDecimal = false :=
    List.all_eq_false.2 ⟨c, hc, by simp [hdecimal]⟩
  rw [hall, Option.isSome_eq_false_iff, Option.isNone_iff_eq_none] at hread
  unfold checkCount
  dsimp only
  rw [if_pos (by simpa using hdigits), hread]
  exact (passes_remark _).stops fun _ _ => rfl

theorem checkCount_of_pos {fallback n : Int} (h : 1 ≤ n) :
    checkCount strict field fallback (.int n) = pure n := by
  rw [checkCount, checkPositive, if_neg (by omega)]

/-! ## Lists of texts -/

theorem gives_checkItems {items : List Value} {index : Nat} :
    Gives (fun ss => ∀ s ∈ ss, Bare s) (checkItems strict field index items) := by
  induction items generalizing index with
  | nil => exact gives_pure (by simp)
  | cons item rest ih =>
    cases item with
    | string s =>
      -- an item that is nothing but white space is left out
      refine ih.bind fun ss hss => gives_pure ?_
      split
      · exact hss
      · rename_i hne
        intro t ht
        rcases List.mem_cons.1 ht with rfl | ht
        · exact ⟨trimmed_stripString s, hne⟩
        · exact hss t ht
    | _ => exact Gives.after fun _ => ih

theorem passes_checkItems {items : List Value} {index : Nat} :
    Passes (checkItems false field index items) := by
  induction items generalizing index with
  | nil => exact passes_pure []
  | cons item rest ih =>
    cases item with
    | string s => exact ih.bind fun ss => passes_pure _
    | _ => exact passes_report.bind fun _ => ih

theorem checkItems_of_bare {ss : List String} {index : Nat} (h : ∀ s ∈ ss, Bare s) :
    checkItems strict field index (ss.map .string) = pure ss := by
  induction ss generalizing index with
  | nil => rfl
  | cons s rest ih =>
    have hs : Bare s := h s (by simp)
    rw [List.map_cons, checkItems, ih fun t ht => h t (List.mem_cons_of_mem _ ht), pure_bind]
    dsimp only
    rw [stripString_of_trimmed hs.trimmed, if_neg hs.nonempty]

/-- The items of a text with commas are bare. -/
theorem bare_of_mem_commaItems {s t : String} (h : t ∈ commaItems s) : Bare t := by
  unfold commaItems at h
  rw [List.mem_filter, List.mem_map] at h
  obtain ⟨⟨p, -, rfl⟩, hne⟩ := h
  have htrimmed := trimmed_stripString (String.ofList p)
  unfold stripString at htrimmed
  rw [String.toList_ofList] at htrimmed
  exact ⟨htrimmed, by simpa using hne⟩

/-- **The texts of a list are bare,** when those of the default are. -/
theorem gives_checkTexts {fallback : List String} (h : ∀ s ∈ fallback, Bare s) :
    Gives (fun ss => ∀ s ∈ ss, Bare s) (checkTexts strict field fallback v) := by
  unfold checkTexts
  cases v with
  | null => exact gives_pure h
  | string s =>
    dsimp only
    split
    · exact gives_report h
    · split
      · exact gives_pure h
      · exact Gives.after fun _ => gives_pure fun t ht => bare_of_mem_commaItems ht
  | array items => exact gives_checkItems
  | _ => exact gives_report h

theorem passes_checkTexts {fallback : List String} :
    Passes (checkTexts false field fallback v) := by
  unfold checkTexts
  cases v with
  | null => exact passes_pure fallback
  | string s =>
    dsimp only
    rw [if_neg Bool.false_ne_true]
    split
    · exact passes_pure fallback
    · exact (passes_remark _).bind fun _ => passes_pure _
  | array items => exact passes_checkItems
  | _ => exact passes_fallback fallback

theorem checkTexts_of_bare {ss fallback : List String} (h : ∀ s ∈ ss, Bare s) :
    checkTexts strict field fallback (.ofStrings ss) = pure ss :=
  checkItems_of_bare h

/-! ## Extensions -/

/-- A text that can be an extension. -/
structure IsExtension (s : String) : Prop where
  bare : Bare s
  dotted : s.startsWith "." = true

instance (s : String) : Decidable (IsExtension s) :=
  decidable_of_iff (Bare s ∧ s.startsWith "." = true)
    ⟨fun h => ⟨h.1, h.2⟩, fun h => ⟨h.bare, h.dotted⟩⟩

/-- A dot in front of a bare text makes an extension. -/
theorem isExtension_dot {s : String} (h : Bare s) : IsExtension ("." ++ s) := by
  have hlist : ("." ++ s).toList = '.' :: s.toList := String.toList_append
  have hne : s.toList ≠ [] := fun hnil => h.nonempty (String.toList_eq_nil_iff.1 hnil)
  refine ⟨⟨⟨?_, ?_⟩, ?_⟩, ?_⟩
  · rw [hlist]
    rintro c ⟨⟩
    decide
  · -- the last character is that of the text
    rw [hlist, List.getLast?_cons_of_ne_nil hne]
    exact h.trimmed.last
  · intro hempty
    rw [hempty] at hlist
    cases hlist
  · rw [String.startsWith_string_iff, hlist]
    exact ⟨s.toList, rfl⟩

/-- **Every extension starts with a dot.** -/
theorem gives_checkDots {ss : List String} :
    Gives (fun es => ∀ e ∈ es, IsExtension e) (checkDots strict ss) := by
  induction ss with
  | nil => exact gives_pure (by simp)
  | cons s rest ih =>
    -- whether the dot was there or is added, the rest is checked in the same way
    have hcons : ∀ e, IsExtension e →
        Gives (fun es => ∀ e ∈ es, IsExtension e) (return e :: (← checkDots strict rest)) := by
      intro e he
      refine ih.bind fun es hes => gives_pure ?_
      intro e' he'
      rcases List.mem_cons.1 he' with rfl | he'
      · exact he
      · exact hes e' he'
    rw [checkDots]
    split
    · exact ih
    · rename_i hne
      have hbare : Bare (stripString s) := ⟨trimmed_stripString s, hne⟩
      split
      · rename_i hdotted
        exact hcons _ ⟨hbare, hdotted⟩
      · split
        · exact gives_throw _
        · exact Gives.after fun _ => hcons _ (isExtension_dot hbare)

theorem passes_checkDots {ss : List String} : Passes (checkDots false ss) := by
  induction ss with
  | nil => exact passes_pure []
  | cons s rest ih =>
    rw [checkDots]
    split
    · exact ih
    · split
      · exact ih.bind fun _ => passes_pure _
      · exact (passes_remark _).bind fun _ => ih.bind fun _ => passes_pure _

theorem checkDots_of_isExtension {ss : List String} (h : ∀ s ∈ ss, IsExtension s) :
    checkDots strict ss = pure ss := by
  induction ss with
  | nil => rfl
  | cons s rest ih =>
    have hs : IsExtension s := h s (by simp)
    rw [checkDots, stripString_of_trimmed hs.bare.trimmed, if_neg hs.bare.nonempty,
      if_pos hs.dotted, ih fun t ht => h t (List.mem_cons_of_mem _ ht)]
    rfl

end SourceCensus.Config
