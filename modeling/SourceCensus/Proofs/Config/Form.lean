import SourceCensus.Proofs.Config.Settings

/-! # The form of a checked configuration

    Whatever value is checked, strict or lenient: what comes out is a sound configuration
    (`sound_of_check`). As an object it holds every setting under its name and in its type, and
    the members that are no settings as they were given (`checked_wellFormed`).
-/

namespace SourceCensus.Config

open Json (Value Members)
open Text

variable {strict : Bool} {currentFolder : String} {v : Value} {checked : Checked} {ms : Members}
  {c : Config} {key : String}

/-! ## What a check gives -/

/-- **What a check does to a value:** an object has its settings checked and keeps its other
    members, and any other value is replaced by the defaults when the check is lenient. -/
theorem check_eq_ok (h : check strict currentFolder v = .ok checked) :
    (∃ ms, v = .object ms ∧
      (checkMembers strict (Settings.default currentFolder) (Members.ofList ms)).run [] =
        .ok (checked.config.settings, checked.remarks) ∧
      checked.config.others = unknownMembers ms) ∨
    (∀ ms, v ≠ .object ms) ∧ checked.config = Config.default currentFolder := by
  cases v with
  | object ms =>
    left
    rw [check_object] at h
    obtain ⟨found, hrun, rfl⟩ := map_eq_ok h
    exact ⟨ms, rfl, hrun, rfl⟩
  | _ =>
    right
    unfold check at h
    dsimp only at h
    split at h
    · cases h
    · cases h
      exact ⟨fun ms => nofun, rfl⟩

theorem nodup_keys_unknownMembers (ms : Members) : (Members.keys (unknownMembers ms)).Nodup :=
  (Members.nodup_keys_ofList ms).sublist (List.filter_sublist.map _)

theorem not_mem_of_mem_unknownMembers (h : key ∈ Members.keys (unknownMembers ms)) :
    key ∉ Settings.memberNames := by
  obtain ⟨m, hm, rfl⟩ := List.mem_map.1 h
  simpa [unknownMembers] using (List.mem_filter.1 hm).2

/-- **Every checked configuration is sound,** and has no white space at the ends of its paths,
    unless the path of the current folder has. -/
theorem sound_of_check (h : check strict currentFolder v = .ok checked) :
    checked.config.Sound ∧ (Trimmed currentFolder → Trimmed checked.config.settings.inputPath) ∧
      Trimmed checked.config.settings.outputPath := by
  have hempty : Trimmed "" := by decide
  rcases check_eq_ok h with ⟨ms, -, hrun, hothers⟩ | ⟨-, hdefault⟩
  · obtain ⟨hsound, hinput, houtput⟩ :=
      gives_checkMembers (Settings.sound_default currentFolder) _ _ _ hrun
    refine ⟨⟨hsound, ?_, ?_⟩, hinput, houtput hempty⟩
    · rw [hothers]
      exact nodup_keys_unknownMembers ms
    · rw [hothers]
      intro key
      exact not_mem_of_mem_unknownMembers
  · rw [hdefault]
    exact ⟨⟨Settings.sound_default currentFolder, List.nodup_nil, nofun⟩, id, hempty⟩

/-! ## The object -/

/-- The form of an object that the readers of a configuration rely on. -/
structure WellFormed (ms : Members) : Prop where
  /-- Paths are texts. -/
  inputPath : ∃ path, ms.get? Settings.inputPathName = some (.string path)
  outputPath : ∃ path, ms.get? Settings.outputPathName = some (.string path)
  /-- The ignore file is respected or not. -/
  respectIgnoreFile : ∃ b, ms.get? Settings.respectIgnoreFileName = some (.bool b)
  /-- Counts are integers of one at least. -/
  maxNodeCount : ∃ n, ms.get? Settings.maxNodeCountName = some (.int n) ∧ 1 ≤ n
  maxWorkers : ∃ n, ms.get? Settings.maxWorkersName = some (.int n) ∧ 1 ≤ n
  /-- Patterns are lists of texts that are not empty and have no white space at their ends. -/
  includePatterns : ∃ ss, ms.get? Settings.includePatternsName = some (.ofStrings ss) ∧
    ∀ s ∈ ss, Bare s
  excludePatterns : ∃ ss, ms.get? Settings.excludePatternsName = some (.ofStrings ss) ∧
    ∀ s ∈ ss, Bare s
  /-- There is an extension, and all of them start with a dot. -/
  extensions : ∃ ss, ms.get? Settings.extensionsName = some (.ofStrings ss) ∧ ss ≠ [] ∧
    ∀ s ∈ ss, Bare s ∧ s.startsWith "." = true

/-- A sound configuration has this form as an object. -/
theorem Sound.wellFormed (h : c.Sound) : WellFormed c.toMembers := by
  have hmembers := h.get?_toMembers
  simp only [Settings.toMembers, List.forall_mem_cons] at hmembers
  obtain ⟨inputPath, extensions, includePatterns, excludePatterns, respectIgnoreFile, maxNodeCount,
    maxWorkers, outputPath, -⟩ := hmembers
  exact {
    inputPath := ⟨_, inputPath⟩
    outputPath := ⟨_, outputPath⟩
    respectIgnoreFile := ⟨_, respectIgnoreFile⟩
    maxNodeCount := ⟨_, maxNodeCount, h.settings.maxNodeCount⟩
    maxWorkers := ⟨_, maxWorkers, h.settings.maxWorkers⟩
    includePatterns := ⟨_, includePatterns, h.settings.includePatterns⟩
    excludePatterns := ⟨_, excludePatterns, h.settings.excludePatterns⟩
    extensions := ⟨_, extensions, h.settings.extensions_ne, fun e he =>
      ⟨(h.settings.extensions e he).bare, (h.settings.extensions e he).dotted⟩⟩ }

/-- A member that is no setting stands in the object as it was given. -/
theorem get?_unknownMembers (hdistinct : (Members.keys ms).Nodup)
    (hkey : key ∉ Settings.memberNames) : (unknownMembers ms).get? key = ms.get? key := by
  unfold unknownMembers
  rw [Members.ofList_of_nodup hdistinct]
  exact Members.get?_filter (p := fun key => !Settings.memberNames.contains key)
    (by simpa using hkey) ms

/-- **A checked configuration is well formed,** whatever was checked and however. An object, which
    has every key once, also keeps each member that is no setting. -/
theorem checked_wellFormed (h : check strict currentFolder v = .ok checked) :
    WellFormed checked.config.toMembers ∧
    ∀ ms : Members, v = .object ms → (Members.keys ms).Nodup → ∀ key ∉ Settings.memberNames,
      checked.config.toMembers.get? key = ms.get? key := by
  refine ⟨(sound_of_check h).1.wellFormed, ?_⟩
  intro ms hobject hdistinct key hkey
  rw [get?_toMembers_of_not_mem hkey]
  rcases check_eq_ok h with ⟨ms', hobject', -, hothers⟩ | ⟨hnone, -⟩
  · rw [hobject, Value.object.injEq] at hobject'
    rw [hothers, ← hobject', get?_unknownMembers hdistinct hkey]
  · exact absurd hobject (hnone ms)

/-- Members that are not in their form, and two that are no settings. -/
def crookedMembers : Members :=
  [(Settings.extensionsName, .string " cs, ,.h "), ("color", .null),
   (Settings.includePatternsName, .array [.string " a ", .int 7, .string " "]),
   (Settings.maxNodeCountName, .string " 12 "), (Settings.maxWorkersName, .bool true),
   (Settings.respectIgnoreFileName, .string "Yes"), (Settings.inputPathName, .array []),
   (Settings.outputPathName, .string "\tout.json\n"), ("version", .int 2)]

/-- What a lenient check makes of them. -/
def straightSettings : Settings :=
  { Settings.default "/cwd" with
    extensions := [".cs", ".h"], includePatterns := ["a"], maxNodeCount := 12,
    respectIgnoreFile := true, outputPath := "out.json" }

theorem check_crookedMembers :
    ∃ checked, check false "/cwd" (.object crookedMembers) = .ok checked ∧
      checked.config.settings = straightSettings := by
  have hsettings : (check false "/cwd" (.object crookedMembers)).toOption.map
      (·.config.settings) = some straightSettings := by decide +kernel
  exact exists_of_toOption_map hsettings

theorem checked_wellFormed_crookedMembers :
    ∃ checked, check false "/cwd" (.object crookedMembers) = .ok checked ∧
      checked.config.settings = straightSettings ∧ (Members.keys crookedMembers).Nodup ∧
      WellFormed checked.config.toMembers ∧
      ∀ key ∉ Settings.memberNames,
        checked.config.toMembers.get? key = crookedMembers.get? key := by
  obtain ⟨checked, hcheck, hsettings⟩ := check_crookedMembers
  have hdistinct : (Members.keys crookedMembers).Nodup := by decide
  obtain ⟨hform, hkept⟩ := checked_wellFormed hcheck
  exact ⟨checked, hcheck, hsettings, hdistinct, hform, hkept crookedMembers rfl hdistinct⟩

end SourceCensus.Config
