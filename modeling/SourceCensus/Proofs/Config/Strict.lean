import SourceCensus.Proofs.Config.Settings
import SourceCensus.Proofs.Text.Trim

/-! # Strict and lenient checks compared

    A strict check and a lenient one go through the same steps. Where the strict step goes through
    it leaves no remark and gives what the lenient one gives; where the lenient step leaves no
    remark the strict one goes through. `Silent` says this of two steps, and it is kept when steps
    follow one another (`Silent.bind`).

    One case is left out of it. A list that is given as a text of nothing but commas and white
    space has no items, and a lenient check then takes the default and says nothing, while a
    strict check stops. `strict_check_eq_ok_iff` says that this is the only case.
-/

namespace SourceCensus.Config

open Json (Value Members)
open Text

variable {α β : Type} {x y : Checking α} {f g : α → Checking β} {p q : Prop} {strict : Bool}
  {field : String} {fault : Fault} {r : Fault → Remark} {a : α} {v : Value}

/-! ## Remarks are added at the end -/

/-- Every remark made before a step stands before those that the step makes. -/
def Adds (y : Checking α) : Prop :=
  ∀ before a after, y.run before = .ok (a, after) → ∃ more, after = before ++ more

/-- A step makes a remark whenever it goes through. -/
def Remarks (y : Checking α) : Prop :=
  ∀ before a after, y.run before = .ok (a, after) → ∃ r more, after = before ++ r :: more

theorem Remarks.adds (hy : Remarks y) : Adds y := by
  intro before a after hrun
  obtain ⟨r, more, hafter⟩ := hy before a after hrun
  exact ⟨r :: more, hafter⟩

theorem adds_pure (a : α) : Adds (pure a) := by
  intro before b after hrun
  cases hrun
  exact ⟨[], (List.append_nil before).symm⟩

theorem adds_throw (fault : Fault) : Adds (throw fault : Checking α) := by
  intro before a after hrun
  cases hrun

theorem remarks_remark (r : Remark) : Remarks (remark r) := by
  intro before a after hrun
  cases hrun
  exact ⟨r, [], rfl⟩

theorem Adds.bind (hy : Adds y) (hg : ∀ a, Adds (g a)) : Adds (y >>= g) := by
  intro before b after hrun
  rw [StateT.run_bind] at hrun
  obtain ⟨⟨a, between⟩, hfirst, hsecond⟩ := bind_eq_ok hrun
  obtain ⟨more, rfl⟩ := hy before a between hfirst
  obtain ⟨others, rfl⟩ := hg a _ b after hsecond
  exact ⟨more ++ others, List.append_assoc before more others⟩

theorem Remarks.bind (hy : Remarks y) (hg : ∀ a, Adds (g a)) : Remarks (y >>= g) := by
  intro before b after hrun
  rw [StateT.run_bind] at hrun
  obtain ⟨⟨a, between⟩, hfirst, hsecond⟩ := bind_eq_ok hrun
  obtain ⟨r, more, rfl⟩ := hy before a between hfirst
  obtain ⟨others, rfl⟩ := hg a _ b after hsecond
  exact ⟨r, more ++ others, by rw [List.append_assoc, List.cons_append]⟩

theorem remarks_fallback (a : α) : Remarks (do report false fault r; return a) :=
  Remarks.bind (remarks_remark (r fault)) fun _ => adds_pure a

/-! ## A strict step and a lenient one -/

/-- The strict step `x` goes through exactly when the lenient step `y` does without a remark and
    `p` holds, and then both give the same. -/
structure Silent (p : Prop) (x y : Checking α) : Prop where
  adds : Adds y
  run_iff : ∀ before a after,
    x.run before = .ok (a, after) ↔ p ∧ y.run before = .ok (a, after) ∧ after = before

theorem silent_pure (a : α) : Silent True (pure a) (pure a) where
  adds := adds_pure a
  run_iff := by
    intro before b after
    constructor
    · intro hrun
      cases hrun
      exact ⟨trivial, rfl, rfl⟩
    · intro h
      exact h.2.1

/-- Where the strict step stops the lenient one makes a remark. -/
theorem silent_of_stops (hx : Stops fault x) (hy : Remarks y) : Silent True x y where
  adds := hy.adds
  run_iff := by
    intro before a after
    rw [hx before]
    constructor
    · intro hrun
      cases hrun
    · intro h
      obtain ⟨-, hrun, hsame⟩ := h
      -- a remark was added, so what was remarked is not what it was before
      obtain ⟨r, more, hafter⟩ := hy before a after hrun
      rw [hsame] at hafter
      simp at hafter

/-- A strict step that stops where the lenient one may say nothing. -/
theorem silent_false (hx : Stops fault x) (hy : Adds y) : Silent False x y where
  adds := hy
  run_iff := by
    intro before a after
    rw [hx before]
    simp

/-- **Steps one after the other.** The conditions of both are needed. -/
theorem Silent.bind (hx : Silent p x y) (hf : ∀ a, Silent q (f a) (g a)) :
    Silent (p ∧ q) (x >>= f) (y >>= g) where
  adds := hx.adds.bind fun a => (hf a).adds
  run_iff := by
    intro before b after
    rw [StateT.run_bind, StateT.run_bind]
    constructor
    · -- both steps succeed strictly, so each does what the lenient step does
      intro hrun
      obtain ⟨⟨a, between⟩, hfirst, hsecond⟩ := bind_eq_ok hrun
      obtain ⟨hp, hfirst, rfl⟩ := (hx.run_iff before a between).1 hfirst
      obtain ⟨hq, hsecond, rfl⟩ := ((hf a).run_iff between b after).1 hsecond
      refine ⟨⟨hp, hq⟩, ?_, rfl⟩
      rw [hfirst]
      exact hsecond
    · intro h
      obtain ⟨⟨hp, hq⟩, hrun, hsame⟩ := h
      obtain ⟨⟨a, between⟩, hfirst, hsecond⟩ := bind_eq_ok hrun
      -- no remark is taken back, so neither step made one
      obtain ⟨more, hbetween⟩ := hx.adds before a between hfirst
      obtain ⟨others, hafter⟩ := (hf a).adds between b after hsecond
      have hmore : more = [] := by
        rw [hsame, hbetween, List.append_assoc, List.self_eq_append_right,
          List.append_eq_nil_iff] at hafter
        exact hafter.1
      have hquiet : between = before := by rw [hbetween, hmore, List.append_nil]
      subst hquiet
      have hstrict := (hx.run_iff between a between).2 ⟨hp, hfirst, rfl⟩
      rw [hstrict]
      exact ((hf a).run_iff between b after).2 ⟨hq, hsecond, hsame⟩

theorem Silent.of_iff (hx : Silent p x y) (h : q ↔ p) : Silent q x y := by
  rw [propext h]
  exact hx

/-- A step that always agrees asks for nothing. -/
theorem Silent.then (hx : Silent True x y) (hf : ∀ a, Silent q (f a) (g a)) :
    Silent q (x >>= f) (y >>= g) :=
  (hx.bind hf).of_iff (iff_of_eq (true_and q)).symm

/-- A fault that is reported stops a strict step, whatever would come after it. -/
theorem stops_report : Stops fault (do report true fault r; return a) := fun _ => rfl

/-- A fault for which the default is taken. -/
theorem silent_report (a : α) :
    Silent True (do report true fault r; return a) (do report false fault r; return a) :=
  silent_of_stops stops_report (remarks_fallback a)

/-! ## The steps of a check -/

theorem silent_checkText {fallback : String} :
    Silent True (checkText true field fallback v) (checkText false field fallback v) := by
  cases v with
  | null => exact silent_pure fallback
  | string s => exact silent_pure (stripString s)
  | _ => exact silent_report fallback

/-- A word or a number for a truth value is taken with a remark by a lenient check only. -/
theorem silent_checkBool {fallback : Bool} :
    Silent True (checkBool true field fallback v) (checkBool false field fallback v) := by
  have htaken : ∀ (fault : Fault) (r : Remark) (b : Bool),
      Silent True (do report true fault .fallback; return fallback) (do remark r; return b) := by
    intro fault r b
    exact silent_of_stops stops_report (Remarks.bind (remarks_remark r) fun _ => adds_pure b)
  unfold checkBool
  cases v with
  | null => exact silent_pure fallback
  | bool b => exact silent_pure b
  | string s =>
    dsimp only
    split
    · exact htaken _ _ _
    · exact silent_report fallback
  | _ =>
    dsimp only
    split
    · exact htaken _ _ _
    · exact silent_report fallback

theorem silent_checkPositive {fallback n : Int} :
    Silent True (checkPositive true field fallback n) (checkPositive false field fallback n) := by
  unfold checkPositive
  by_cases hn : n < 1
  · rw [if_pos hn, if_pos hn]
    exact silent_report fallback
  · rw [if_neg hn, if_neg hn]
    exact silent_pure n

/-- A text of digits is taken with a remark by a lenient check only. -/
theorem silent_checkCount {fallback : Int} :
    Silent True (checkCount true field fallback v) (checkCount false field fallback v) := by
  unfold checkCount
  cases v with
  | null => exact silent_pure fallback
  | int n => exact silent_checkPositive
  | string s =>
    show Silent True (do report true (.wrongType field "int" "str") .fallback; return fallback) _
    dsimp only
    by_cases hdigits : isDigits (stripString s) = true
    · rw [if_pos (by simpa using hdigits)]
      apply silent_of_stops stops_report
      apply Remarks.bind (remarks_remark _)
      intro _
      split
      · exact silent_checkPositive.adds
      · exact adds_throw _
    · rw [if_neg (by simpa using hdigits)]
      exact silent_report fallback
  | _ => exact silent_report fallback

/-- An item that is no text is left out with a remark by a lenient check only. -/
theorem silent_checkItems {items : List Value} {index : Nat} :
    Silent True (checkItems true field index items) (checkItems false field index items) := by
  induction items generalizing index with
  | nil => exact silent_pure []
  | cons item rest ih =>
    cases item with
    | string s => exact ih.then fun items => silent_pure _
    | _ => exact silent_of_stops (fun _ => rfl) (Remarks.bind (remarks_remark _) fun _ => ih.adds)

/-- A value is a text that lists nothing: it has no characters but commas and white space. -/
def ListsNothing (v : Value) : Prop :=
  ∃ s, v = .string s ∧ ∀ c ∈ s.toList, c = ',' ∨ isBlank c = true

theorem strip_eq_nil_iff {t : List Char} : strip t = [] ↔ ∀ c ∈ t, isBlank c = true := by
  constructor
  · intro hnil
    -- what is left after the blanks in front would keep its first character
    have hfront : t.dropWhile isBlank = [] := by
      by_contra hne
      have hkept := List.rdropWhile_eq_nil_iff.1 (show (t.dropWhile isBlank).rdropWhile isBlank = []
        from hnil) _ (List.head_mem hne)
      have hfirst := List.head_dropWhile_not isBlank hne
      rw [hkept] at hfirst
      cases hfirst
    exact List.dropWhile_eq_nil_iff.1 hfront
  · intro hall
    show (t.dropWhile isBlank).rdropWhile isBlank = []
    rw [List.dropWhile_eq_nil_iff.2 hall]
    rfl

theorem forall_mem_splitCommas {P : Char → Prop} {t : List Char} :
    (∀ piece ∈ splitCommas t, ∀ c ∈ piece, P c) ↔ ∀ c ∈ t, c = ',' ∨ P c := by
  induction t with
  | nil => simp [splitCommas]
  | cons c rest ih =>
    rw [splitCommas]
    by_cases hcomma : c = ','
    · rw [if_pos hcomma, List.forall_mem_cons, ih, List.forall_mem_cons]
      simp [hcomma]
    · rw [if_neg hcomma, List.forall_mem_cons, ← ih]
      -- the character belongs to the first piece
      cases splitCommas rest with
      | nil => simp [hcomma]
      | cons piece pieces => simp [hcomma, and_assoc]

/-- A text has no items exactly when it lists nothing. -/
theorem commaItems_eq_nil_iff {s : String} : commaItems s = [] ↔ ListsNothing (.string s) := by
  have hpieces : commaItems s = [] ↔ ∀ piece ∈ splitCommas s.toList, strip piece = [] := by
    unfold commaItems
    rw [List.filter_eq_nil_iff, List.forall_mem_map]
    simp
  rw [hpieces]
  simp only [strip_eq_nil_iff, forall_mem_splitCommas]
  unfold ListsNothing
  simp

/-- **The one difference:** a text that lists nothing stops a strict check, and a lenient one takes
    the default for it without a remark. -/
theorem silent_checkTexts {fallback : List String} :
    Silent (¬ ListsNothing v) (checkTexts true field fallback v)
      (checkTexts false field fallback v) := by
  have hnothing : (∀ s, v ≠ .string s) → ¬ ListsNothing v := by
    intro hne h
    obtain ⟨s, rfl, -⟩ := h
    exact hne s rfl
  cases v with
  | null => exact (silent_pure fallback).of_iff (by simpa using hnothing nofun)
  | string s =>
    show Silent _ (do report true (.wrongType field "list[str]" "str") .fallback; return fallback) _
    unfold checkTexts
    dsimp only
    -- what is left to compare is whether the text lists anything
    rw [if_neg Bool.false_ne_true, ← commaItems_eq_nil_iff]
    by_cases hitems : commaItems s = []
    · rw [hitems]
      exact (silent_false stops_report (adds_pure fallback)).of_iff (by simp)
    · split
      · exact absurd ‹commaItems s = []› hitems
      · refine Silent.of_iff (silent_of_stops stops_report ?_) (iff_true_intro hitems)
        exact Remarks.bind (remarks_remark _) fun _ => adds_pure _
  | array items => exact silent_checkItems.of_iff (by simpa using hnothing nofun)
  | _ => exact (silent_report fallback).of_iff (by simpa using hnothing nofun)

/-- An extension without a dot is completed with a remark by a lenient check only. -/
theorem silent_checkDots {ss : List String} :
    Silent True (checkDots true ss) (checkDots false ss) := by
  induction ss with
  | nil => exact silent_pure []
  | cons s rest ih =>
    rw [checkDots, checkDots]
    by_cases hempty : stripString s = ""
    · rw [if_pos hempty, if_pos hempty]
      exact ih
    · rw [if_neg hempty, if_neg hempty]
      by_cases hdotted : (stripString s).startsWith "." = true
      · rw [if_pos hdotted, if_pos hdotted]
        exact ih.then fun es => silent_pure _
      · rw [if_neg hdotted, if_neg hdotted]
        refine silent_of_stops (fun _ => rfl) (Remarks.bind (remarks_remark _) fun _ => ?_)
        exact ih.adds.bind fun es => adds_pure _

/-! ## The whole check -/

/-- The names of the lists. -/
def listNames : List String :=
  [Settings.extensionsName, Settings.includePatternsName, Settings.excludePatternsName]

/-- Some list of an object is given as a text that lists nothing. -/
def EmptyListing (ms : Members) : Prop :=
  ∃ name ∈ listNames, ∃ v, (Members.ofList ms).get? name = some v ∧ ListsNothing v

variable {defaults : Settings} {ms : Members}

/-- The default of a list is no text, so a text that lists nothing was given as such. -/
theorem listsNothing_given_iff {name : String} {ss : List String}
    (hdefault : (name, .ofStrings ss) ∈ defaults.toMembers) :
    ListsNothing (given ms defaults name) ↔ ∃ v, ms.get? name = some v ∧ ListsNothing v := by
  unfold given
  rw [Settings.get?_toMembers hdefault]
  cases ms.get? name with
  | none => simp [ListsNothing, Value.ofStrings]
  | some v => simp

theorem emptyListing_iff (defaults : Settings) : ¬ EmptyListing ms ↔
    ¬ ListsNothing (given (Members.ofList ms) defaults Settings.extensionsName) ∧
      ¬ ListsNothing (given (Members.ofList ms) defaults Settings.includePatternsName) ∧
      ¬ ListsNothing (given (Members.ofList ms) defaults Settings.excludePatternsName) := by
  have hextensions : (Settings.extensionsName, .ofStrings defaults.extensions) ∈
      defaults.toMembers := by simp [Settings.toMembers]
  have hincluded : (Settings.includePatternsName, .ofStrings defaults.includePatterns) ∈
      defaults.toMembers := by simp [Settings.toMembers]
  have hexcluded : (Settings.excludePatternsName, .ofStrings defaults.excludePatterns) ∈
      defaults.toMembers := by simp [Settings.toMembers]
  rw [listsNothing_given_iff hextensions, listsNothing_given_iff hincluded,
    listsNothing_given_iff hexcluded]
  unfold EmptyListing listNames
  simp only [List.mem_cons, List.not_mem_nil, or_false, exists_eq_or_imp, exists_eq_left, not_or]

/-- The settings of an object, checked in both ways. -/
theorem silent_checkMembers :
    Silent (¬ EmptyListing ms) (checkMembers true defaults (Members.ofList ms))
      (checkMembers false defaults (Members.ofList ms)) := by
  rw [emptyListing_iff defaults]
  -- the first five members and the dots always agree, the three lists if they list something
  apply silent_checkText.then
  intro inputPath
  apply silent_checkText.then
  intro outputPath
  apply silent_checkBool.then
  intro respectIgnoreFile
  apply silent_checkCount.then
  intro maxNodeCount
  apply silent_checkCount.then
  intro maxWorkers
  apply silent_checkTexts.bind
  intro texts
  apply silent_checkTexts.bind
  intro includePatterns
  refine (silent_checkTexts.bind fun excludePatterns => ?_).of_iff (iff_of_eq (and_true _)).symm
  apply silent_checkDots.then
  intro dotted
  exact silent_pure _

/-- **A strict check takes an object exactly when a lenient one has nothing to remark,** and both
    then give the same configuration, with one exception: where a list is given as a text of
    nothing but commas and white space, the lenient check takes the default without a remark,
    and the strict one stops. -/
theorem strict_check_eq_ok_iff (currentFolder : String) (ms : Members) (checked : Checked) :
    check true currentFolder (.object ms) = .ok checked ↔
      check false currentFolder (.object ms) = .ok checked ∧ checked.remarks = [] ∧
        ¬ EmptyListing ms := by
  have hsilent : Silent (¬ EmptyListing ms)
      (checkMembers true (Settings.default currentFolder) (Members.ofList ms))
      (checkMembers false (Settings.default currentFolder) (Members.ofList ms)) :=
    silent_checkMembers
  rw [check_object, check_object]
  constructor
  · intro hstrict
    obtain ⟨⟨settings, remarks⟩, hrun, rfl⟩ := map_eq_ok hstrict
    obtain ⟨hlists, hlenient, rfl⟩ := (hsilent.run_iff [] settings remarks).1 hrun
    refine ⟨?_, rfl, hlists⟩
    rw [hlenient]
    rfl
  · intro h
    obtain ⟨hlenient, hquiet, hlists⟩ := h
    obtain ⟨⟨settings, remarks⟩, hrun, rfl⟩ := map_eq_ok hlenient
    rw [(hsilent.run_iff [] settings remarks).2 ⟨hlists, hrun, hquiet⟩]
    rfl

/-- Extensions given as a space and a comma: the lenient check takes the default and has nothing to
    remark, and the strict one stops. -/
theorem strict_check_stops_in_silence :
    (∃ checked,
      check false "/cwd" (.object [(Settings.extensionsName, .string " ,")]) = .ok checked ∧
      checked.config.settings = Settings.default "/cwd" ∧ checked.remarks = []) ∧
    check true "/cwd" (.object [(Settings.extensionsName, .string " ,")]) =
      .error (.wrongType Settings.extensionsName "list[str]" "str") := by
  have hfound :
      (check false "/cwd" (.object [(Settings.extensionsName, .string " ,")])).toOption.map
        (fun checked => (checked.config.settings, checked.remarks)) =
          some (Settings.default "/cwd", []) := by decide +kernel
  obtain ⟨checked, hcheck, hvalue⟩ := exists_of_toOption_map hfound
  obtain ⟨hsettings, hremarks⟩ := Prod.mk.inj hvalue
  exact ⟨⟨checked, hcheck, hsettings, hremarks⟩, rfl⟩

end SourceCensus.Config
