import SourceCensus.Proofs.Config.Lenient

/-! # What the counts decide

    A check looks at one member after the other. The value that it takes for a member depends on
    nothing but that member: `Determined` says that a step can give one value only, whatever was
    remarked before it. So objects that agree on all members but the counts are checked to
    settings that agree in all but the counts (`uncounted_eq`).
-/

namespace SourceCensus.Config

open Json (Value Members)
open Text

variable {α β : Type} {x : Checking α} {f : α → Checking β} {strict : Bool} {fault : Fault}
  {r : Fault → Remark} {ms ms' : Members}

/-! ## Steps with one value -/

/-- A step gives the same value whenever it goes through. -/
def Determined (x : Checking α) : Prop := ∃ a, Gives (· = a) x

theorem determined_pure (a : α) : Determined (pure a) := ⟨a, gives_pure rfl⟩

theorem determined_throw [Inhabited α] (fault : Fault) : Determined (throw fault : Checking α) :=
  ⟨Inhabited.default, gives_throw fault⟩

theorem Determined.bind (hx : Determined x) (hf : ∀ a, Determined (f a)) :
    Determined (x >>= f) := by
  obtain ⟨a, hx⟩ := hx
  obtain ⟨b, hb⟩ := hf a
  refine ⟨b, hx.bind ?_⟩
  intro a' ha
  rw [ha]
  exact hb

/-- A remark decides nothing. -/
theorem Determined.after_remark {r : Remark} {y : Checking β} (hy : Determined y) :
    Determined (remark r >>= fun _ => y) := by
  obtain ⟨b, hy⟩ := hy
  exact ⟨b, Gives.after fun _ => hy⟩

theorem determined_report (a : α) : Determined (do report strict fault r; return a) :=
  ⟨a, gives_report rfl⟩

/-! ## The steps of a check -/

theorem determined_checkText (strict : Bool) (field fallback : String) (v : Value) :
    Determined (checkText strict field fallback v) := by
  cases v with
  | null => exact determined_pure fallback
  | string s => exact determined_pure (stripString s)
  | _ => exact determined_report fallback

theorem determined_checkBool (strict : Bool) (field : String) (fallback : Bool) (v : Value) :
    Determined (checkBool strict field fallback v) := by
  unfold checkBool
  cases v with
  | null => exact determined_pure fallback
  | bool b => exact determined_pure b
  | _ =>
    dsimp only
    split
    · split
      · exact determined_report fallback
      · exact (determined_pure _).after_remark
    · exact determined_report fallback

theorem determined_checkItems (strict : Bool) (field : String) (index : Nat)
    (items : List Value) : Determined (checkItems strict field index items) := by
  induction items generalizing index with
  | nil => exact determined_pure []
  | cons item rest ih =>
    cases item with
    | string s => exact (ih (index + 1)).bind fun items => determined_pure _
    | _ =>
      obtain ⟨items, hitems⟩ := ih (index + 1)
      exact ⟨items, Gives.after fun _ => hitems⟩

theorem determined_checkTexts (strict : Bool) (field : String) (fallback : List String)
    (v : Value) : Determined (checkTexts strict field fallback v) := by
  unfold checkTexts
  cases v with
  | null => exact determined_pure fallback
  | string s =>
    dsimp only
    split
    · exact determined_report fallback
    · split
      · exact determined_pure fallback
      · exact (determined_pure _).after_remark
  | array items => exact determined_checkItems strict field 0 items
  | _ => exact determined_report fallback

theorem determined_checkDots (strict : Bool) (ss : List String) :
    Determined (checkDots strict ss) := by
  induction ss with
  | nil => exact determined_pure []
  | cons s rest ih =>
    rw [checkDots]
    split
    · exact ih
    · split
      · exact ih.bind fun es => determined_pure _
      · split
        · exact determined_throw _
        · exact (ih.bind fun es => determined_pure _).after_remark

/-! ## Settings without counts -/

/-- Objects that agree under all keys but a few. -/
def AgreeBesides (names : List String) (ms ms' : Members) : Prop :=
  ∀ key, key ∉ names → (Members.ofList ms).get? key = (Members.ofList ms').get? key

/-- Settings with nothing in the place of the counts. -/
def uncounted (s : Settings) : Settings := { s with maxNodeCount := 0, maxWorkers := 0 }

/-- All objects that agree besides the counts are checked to the same settings, as far as these are
    not counts. -/
theorem gives_checkMembers_uncounted (strict : Bool) (defaults : Settings) (ms : Members) :
    ∃ u, ∀ ms', AgreeBesides countNames ms ms' →
      Gives (fun s => uncounted s = u) (checkMembers strict defaults (Members.ofList ms')) := by
  obtain ⟨inputPath, hinputPath⟩ := determined_checkText strict Settings.inputPathName
    defaults.inputPath (given (Members.ofList ms) defaults Settings.inputPathName)
  obtain ⟨outputPath, houtputPath⟩ := determined_checkText strict Settings.outputPathName
    defaults.outputPath (given (Members.ofList ms) defaults Settings.outputPathName)
  obtain ⟨respects, hrespects⟩ := determined_checkBool strict Settings.respectIgnoreFileName
    defaults.respectIgnoreFile (given (Members.ofList ms) defaults Settings.respectIgnoreFileName)
  obtain ⟨texts, htexts⟩ := determined_checkTexts strict Settings.extensionsName
    defaults.extensions (given (Members.ofList ms) defaults Settings.extensionsName)
  obtain ⟨included, hincluded⟩ := determined_checkTexts strict Settings.includePatternsName
    defaults.includePatterns (given (Members.ofList ms) defaults Settings.includePatternsName)
  obtain ⟨excluded, hexcluded⟩ := determined_checkTexts strict Settings.excludePatternsName
    defaults.excludePatterns (given (Members.ofList ms) defaults Settings.excludePatternsName)
  obtain ⟨dotted, hdotted⟩ := determined_checkDots strict texts
  refine ⟨⟨inputPath, if dotted.isEmpty then Settings.defaultExtensions else dotted, included,
    excluded, respects, 0, 0, outputPath⟩, ?_⟩
  intro ms' hagree
  -- every member that is no count is given in the same way
  have hgiven : ∀ name, name ∉ countNames →
      given (Members.ofList ms) defaults name = given (Members.ofList ms') defaults name := by
    intro name hname
    rw [given, given, hagree name hname]
  rw [hgiven _ (by decide)] at hinputPath houtputPath hrespects htexts hincluded hexcluded
  unfold checkMembers
  refine hinputPath.bind fun a ha => ?_
  refine houtputPath.bind fun b hb => ?_
  refine hrespects.bind fun c hc => ?_
  -- whatever the counts are, they are put aside in the end
  refine Gives.after fun maxNodeCount => Gives.after fun maxWorkers => ?_
  refine htexts.bind fun d hd => ?_
  refine hincluded.bind fun e he => ?_
  refine hexcluded.bind fun g hg => ?_
  subst ha hb hc hd he hg
  refine hdotted.bind fun h hh => ?_
  subst hh
  exact gives_pure rfl

/-- **Nothing but the counts depends on the counts.** -/
theorem uncounted_eq {currentFolder : String} {checked checked' : Checked}
    (hagree : AgreeBesides countNames ms ms')
    (h : check strict currentFolder (.object ms) = .ok checked)
    (h' : check strict currentFolder (.object ms') = .ok checked') :
    uncounted checked.config.settings = uncounted checked'.config.settings := by
  obtain ⟨u, hu⟩ := gives_checkMembers_uncounted strict (Settings.default currentFolder) ms
  rw [check_object] at h h'
  obtain ⟨⟨settings, remarks⟩, hrun, rfl⟩ := map_eq_ok h
  obtain ⟨⟨settings', remarks'⟩, hrun', rfl⟩ := map_eq_ok h'
  have hfirst := hu ms (fun _ _ => rfl) _ _ _ hrun
  have hsecond := hu ms' hagree _ _ _ hrun'
  exact hfirst.trans hsecond.symm

end SourceCensus.Config
