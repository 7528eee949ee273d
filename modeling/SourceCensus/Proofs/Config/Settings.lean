import SourceCensus.Proofs.Config.Steps
import SourceCensus.Proofs.Json.Members

/-! # Settings that a check gives

    `Settings.Sound` is what the readers of settings rely on: counts are at least one, patterns and
    extensions are bare texts, and there is an extension. The defaults are sound
    (`Settings.sound_default`), and so are all settings that a check gives, strict or lenient
    (`gives_checkMembers`).

    A configuration is sound when its settings are and its other members stand under other keys,
    each under one of its own. Then each member is found under its key (`Sound.get?_toMembers`).
-/

namespace SourceCensus

open Json (Value Members)
open Text

/-! ## Settings -/

namespace Settings

variable {s : Settings}

/-- What the readers of settings rely on. -/
structure Sound (s : Settings) : Prop where
  includePatterns : ∀ p ∈ s.includePatterns, Bare p
  excludePatterns : ∀ p ∈ s.excludePatterns, Bare p
  extensions : ∀ e ∈ s.extensions, Config.IsExtension e
  extensions_ne : s.extensions ≠ []
  maxNodeCount : 1 ≤ s.maxNodeCount
  maxWorkers : 1 ≤ s.maxWorkers

/-- **The defaults are sound.** -/
theorem sound_default (currentFolder : String) : (Settings.default currentFolder).Sound where
  includePatterns := show ∀ p ∈ defaultIncludePatterns, Bare p by decide
  excludePatterns := show ∀ p ∈ defaultExcludePatterns, Bare p by decide
  extensions := show ∀ e ∈ defaultExtensions, Config.IsExtension e by decide +kernel
  extensions_ne := List.cons_ne_nil _ _
  maxNodeCount := show (1 : Int) ≤ 256 by decide
  maxWorkers := show (1 : Int) ≤ 4 by decide

theorem keys_toMembers (s : Settings) : Members.keys s.toMembers = memberNames := rfl

theorem nodup_memberNames : memberNames.Nodup := by decide

theorem get?_toMembers {name : String} {v : Value} (hmem : (name, v) ∈ s.toMembers) :
    s.toMembers.get? name = some v :=
  Members.get?_of_mem nodup_memberNames hmem

end Settings

/-! ## Checked settings -/

namespace Config

variable {strict : Bool} {defaults : Settings} {ms : Members} {c : Config}

/-- **All settings that a check gives are sound,** when the defaults are. A path has no white space
    at its ends, unless the default has. -/
theorem gives_checkMembers (h : defaults.Sound) :
    Gives (fun s => s.Sound ∧ (Trimmed defaults.inputPath → Trimmed s.inputPath) ∧
      (Trimmed defaults.outputPath → Trimmed s.outputPath)) (checkMembers strict defaults ms) := by
  refine gives_checkText.bind fun inputPath hinput => ?_
  refine gives_checkText.bind fun outputPath houtput => ?_
  refine Gives.after fun respectIgnoreFile => ?_
  refine (gives_checkCount h.maxNodeCount).bind fun maxNodeCount hnodes => ?_
  refine (gives_checkCount h.maxWorkers).bind fun maxWorkers hworkers => ?_
  -- every extension is a bare text already, but only its own check gives it a dot
  refine Gives.after fun texts => ?_
  refine (gives_checkTexts h.includePatterns).bind fun includePatterns hincluded => ?_
  refine (gives_checkTexts h.excludePatterns).bind fun excludePatterns hexcluded => ?_
  refine gives_checkDots.bind fun dotted hdotted => gives_pure ⟨?_, hinput, houtput⟩
  refine ⟨hincluded, hexcluded, ?_, ?_, hnodes, hworkers⟩
  · -- where no extension is left the default ones are taken, which are the same for all folders
    split
    · exact (Settings.sound_default "").extensions
    · exact hdotted
  · split
    · exact (Settings.sound_default "").extensions_ne
    · rename_i hne
      simpa using hne

/-! ## Configurations -/

/-- The members of an object that are no settings. -/
def unknownMembers (ms : Members) : Members :=
  (Members.ofList ms).filter fun m => !Settings.memberNames.contains m.1

/-- The check of an object: that of its settings, and the other members as they are. -/
theorem check_object (strict : Bool) (currentFolder : String) (ms : Members) :
    check strict currentFolder (.object ms) =
      ((checkMembers strict (Settings.default currentFolder) (Members.ofList ms)).run []).map
        fun found => ⟨⟨found.1, unknownMembers ms⟩, found.2, []⟩ := by
  unfold check
  dsimp only
  cases (checkMembers strict (Settings.default currentFolder) (Members.ofList ms)).run [] <;> rfl

/-- A configuration as a check gives it. -/
structure Sound (c : Config) : Prop where
  settings : c.settings.Sound
  distinct : (Members.keys c.others).Nodup
  unknown : ∀ key ∈ Members.keys c.others, key ∉ Settings.memberNames

theorem Sound.nodup_keys (h : c.Sound) : (Members.keys c.toMembers).Nodup := by
  unfold toMembers
  rw [Members.keys_append, Settings.keys_toMembers]
  refine List.nodup_append.2 ⟨Settings.nodup_memberNames, h.distinct, ?_⟩
  rintro name hname key hkey rfl
  exact h.unknown name hkey hname

/-- **Every setting is found under its name.** -/
theorem Sound.get?_toMembers (h : c.Sound) :
    ∀ m ∈ c.settings.toMembers, c.toMembers.get? m.1 = some m.2 := by
  intro m hm
  exact Members.get?_of_mem h.nodup_keys (List.mem_append_left _ hm)

/-- Under any other key stands what is no setting. -/
theorem get?_toMembers_of_not_mem {key : String} (hkey : key ∉ Settings.memberNames) :
    c.toMembers.get? key = c.others.get? key := by
  unfold toMembers
  rw [Members.get?_append, Members.get?_eq_none hkey, Option.none_or]

end Config

end SourceCensus
