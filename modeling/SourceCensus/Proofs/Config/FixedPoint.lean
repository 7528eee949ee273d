import SourceCensus.Proofs.Config.Form

/-! # Checking again

    A sound configuration whose paths are trimmed has nothing for a check to do: written as an
    object and checked, strict or lenient and in whatever folder, it comes back as it is, without
    a remark (`check_of_sound`). A check gives such configurations, so the second check of a value
    changes nothing (`check_again`).
-/

namespace SourceCensus.Config

open Json (Value Members)
open Text

variable {c : Config} {defaults : Settings}

/-- In the object of a sound configuration no setting is missing. -/
theorem given_toMembers (h : c.Sound) (defaults : Settings) :
    ∀ m ∈ c.settings.toMembers, given c.toMembers defaults m.1 = m.2 := by
  intro m hm
  unfold given
  rw [h.get?_toMembers m hm, Option.getD_some]

/-- **The settings of a sound configuration come back as they are.** -/
theorem checkMembers_of_sound (strict : Bool) (defaults : Settings) (h : c.Sound)
    (hinput : Trimmed c.settings.inputPath) (houtput : Trimmed c.settings.outputPath) :
    checkMembers strict defaults c.toMembers = pure c.settings := by
  have hgiven := given_toMembers h defaults
  simp only [Settings.toMembers, List.forall_mem_cons] at hgiven
  obtain ⟨inputPath, extensions, includePatterns, excludePatterns, respectIgnoreFile, maxNodeCount,
    maxWorkers, outputPath, -⟩ := hgiven
  -- extensions are checked twice: as a list of texts, and for their dots
  have hbare : ∀ e ∈ c.settings.extensions, Bare e := fun e he => (h.settings.extensions e he).bare
  have hsome : ¬ c.settings.extensions.isEmpty = true := by simpa using h.settings.extensions_ne
  unfold checkMembers
  dsimp only
  rw [inputPath, checkText_of_trimmed hinput, pure_bind,
    outputPath, checkText_of_trimmed houtput, pure_bind,
    respectIgnoreFile, checkBool, pure_bind,
    maxNodeCount, checkCount_of_pos h.settings.maxNodeCount, pure_bind,
    maxWorkers, checkCount_of_pos h.settings.maxWorkers, pure_bind,
    extensions, checkTexts_of_bare hbare, pure_bind,
    includePatterns, checkTexts_of_bare h.settings.includePatterns, pure_bind,
    excludePatterns, checkTexts_of_bare h.settings.excludePatterns, pure_bind,
    checkDots_of_isExtension h.settings.extensions, pure_bind, if_neg hsome]

/-- The members that are no settings are told apart again. -/
theorem unknownMembers_toMembers (h : c.Sound) : unknownMembers c.toMembers = c.others := by
  have hsettings :
      c.settings.toMembers.filter (fun m => !Settings.memberNames.contains m.1) = [] := by
    rw [List.filter_eq_nil_iff]
    intro m hm
    have hname : m.1 ∈ Settings.memberNames := List.mem_map_of_mem hm
    simpa using hname
  have hothers : c.others.filter (fun m => !Settings.memberNames.contains m.1) = c.others := by
    rw [List.filter_eq_self]
    intro m hm
    simpa using h.unknown m.1 (List.mem_map_of_mem hm)
  unfold unknownMembers
  rw [Members.ofList_of_nodup h.nodup_keys]
  unfold toMembers
  rw [List.filter_append, hsettings, hothers, List.nil_append]

/-- **A sound configuration with trimmed paths passes every check unchanged.** -/
theorem check_of_sound (strict : Bool) (currentFolder : String) (h : c.Sound)
    (hinput : Trimmed c.settings.inputPath) (houtput : Trimmed c.settings.outputPath) :
    check strict currentFolder (.object c.toMembers) = .ok ⟨c, [], []⟩ := by
  rw [check_object, Members.ofList_of_nodup h.nodup_keys,
    checkMembers_of_sound strict _ h hinput houtput, unknownMembers_toMembers h]
  rfl

/-- **Checking again changes nothing.** What a check gives, strict or lenient, is given back by
    every further check of it, strict or lenient and in whatever folder, and without a remark. Only
    the path of the current folder has to be free of white space at its ends, since it is put in
    the place of a missing path as it is. -/
theorem check_again {strict : Bool} {currentFolder : String} {v : Value} {checked : Checked}
    (hfolder : Trimmed currentFolder) (h : check strict currentFolder v = .ok checked)
    (strict' : Bool) (folder' : String) :
    check strict' folder' (.object checked.config.toMembers) = .ok ⟨checked.config, [], []⟩ := by
  obtain ⟨hsound, hinput, houtput⟩ := sound_of_check h
  exact check_of_sound strict' folder' hsound (hinput hfolder) houtput

theorem check_again_crookedMembers :
    Trimmed "/cwd" ∧ ∃ checked, check false "/cwd" (.object crookedMembers) = .ok checked ∧
      checked.config.settings = straightSettings ∧
      ∀ (strict : Bool) (folder : String),
        check strict folder (.object checked.config.toMembers) = .ok ⟨checked.config, [], []⟩ := by
  have hfolder : Trimmed "/cwd" := by decide
  obtain ⟨checked, hcheck, hsettings⟩ := check_crookedMembers
  exact ⟨hfolder, checked, hcheck, hsettings, check_again hfolder hcheck⟩

end SourceCensus.Config
