import SourceCensus.Config.Storage
import SourceCensus.Proofs.FileStore.Writing
import SourceCensus.Proofs.Json.RoundTrip
import SourceCensus.Proofs.Text.Lines
import SourceCensus.Proofs.Text.Utf8

/-! # Loading what was saved

    Saving writes the text of a configuration, in UTF-8, to the file that a path names. Loading
    looks that file up again, after the folder for kept data was made once more, which changes no
    file. So it reads the text that was written, and this text is read as the members that were
    saved (`readContent_fileText`). They stand over the defaults (`load_save`).
-/

namespace SourceCensus.Config

open Json (Value Members Plain)
open Session (Work)
open FileStore (Keeps)

variable {s : Session} {path : Option String} {ms : Members}

/-! ## Steps of work -/

section Work

variable {α β : Type}

theorem run_bind (x : Work α) (f : α → Work β) (s : Session) :
    (x >>= f).run s = (f (x.run s).1).run (x.run s).2 := rfl

theorem run_get (f : Session → Work β) (s : Session) : (get >>= f).run s = (f s).run s := rfl

theorem run_ask (question : FileStore → α) (f : α → Work β) (s : Session) :
    (Session.ask question >>= f).run s = (f (question s.files)).run s := rfl

theorem run_change (operation : FileStore → FileStore × α) (s : Session) :
    (Session.change operation).run s =
      ((operation s.files).2, { s with files := (operation s.files).1 }) := rfl

end Work

/-! ## The path of the file -/

/-- The path under which a configuration is kept, when a path may be given. -/
def filePath (env : Environment) (path : Option String) : String :=
  let otherwise := Path.join (DataFolder.path env .posix) fileName
  match path with
  | none => otherwise
  | some p => if p.isEmpty then otherwise else p

/-- **Finding the path** keeps every file. -/
theorem run_pathOr (hcurrent : s.files.HasCurrent) (path : Option String) :
    ∃ ready, (pathOr path).run s = (filePath s.environment path, ready) ∧
      ready.environment = s.environment ∧ Keeps Eq s.files ready.files := by
  have hdefault : ∃ ready, defaultPath.run s = (filePath s.environment none, ready) ∧
      ready.environment = s.environment ∧ Keeps Eq s.files ready.files :=
    ⟨{ s with files := DataFolder.make s.environment .posix s.files }, rfl, rfl,
      FileStore.keeps_makeFolders hcurrent _⟩
  cases path with
  | none => exact hdefault
  | some p =>
    unfold pathOr filePath
    dsimp only
    by_cases hempty : p.isEmpty = true
    · rw [if_pos hempty, if_pos hempty]
      exact hdefault
    · rw [if_neg hempty, if_neg hempty]
      exact ⟨s, rfl, rfl, .refl s.files⟩

/-! ## The content of the file -/

/-- **The text of a configuration** is read as the members that it was written for. -/
theorem readContent_fileText (hplain : Plain (.object ms)) :
    readContent (Text.encode (fileText ms)) = .ok (.object ms) := by
  have hreturn : '\r' ∉ fileText ms := Json.return_not_mem_writeValue hplain fileIndent 0
  unfold readContent
  rw [Text.decodeStrict_encode]
  dsimp only
  rw [Text.normalizeNewlines_of_not_mem hreturn, fileText, Json.read_writeValue hplain]

/-- Writing to the file goes through: there is a current folder, and a text can be written under the
    path that is used, with the files as they are once that path is known. -/
structure Writable (path : Option String) (s : Session) : Prop where
  current : s.files.HasCurrent
  canWrite : ((pathOr path).run s).2.files.canWrite ((pathOr path).run s).1 = true

/-- **What saving leaves:** a file with the text of the configuration, under the path that is
    used. -/
theorem run_save (hwritable : Writable path s) (ms : Members) :
    ∃ saved, (save ms path).run s = (.ok (), saved) ∧ saved.environment = s.environment ∧
      saved.files.HasCurrent ∧
      saved.files.read (filePath s.environment path) = .ok (Text.encode (fileText ms)) := by
  obtain ⟨hcurrent, hcan⟩ := hwritable
  obtain ⟨ready, hpath, henvironment, hkeeps⟩ := run_pathOr hcurrent path
  rw [hpath] at hcan
  have hwrite := FileStore.writeText_of_canWrite hcan (fileText ms)
  obtain ⟨hcurrent', hread⟩ := FileStore.read_writeText (hkeeps.hasCurrent hcurrent) hwrite
  -- from here on it does not matter how the text is written
  generalize hwritten : ready.files.writeText (filePath s.environment path) (fileText ms) = w
    at hwrite hcurrent' hread
  obtain ⟨written, outcome⟩ := w
  dsimp only at hwrite hcurrent' hread
  unfold save
  rw [run_bind, hpath]
  dsimp only
  rw [run_bind, run_change, hwritten, hwrite]
  exact ⟨_, rfl, henvironment, hcurrent', hread⟩

/-- **What loading finds:** the members in the file, over the defaults. -/
theorem run_load (hcurrent : s.files.HasCurrent) {content : Text.Bytes}
    (hread : s.files.read (filePath s.environment path) = .ok content)
    (hcontent : readContent content = .ok (.object ms)) :
    ∃ loaded, (load path).run s =
      ((Config.default s.environment.currentFolder).toMembers.update ms, loaded) := by
  obtain ⟨ready, hpath, henvironment, hkeeps⟩ := run_pathOr hcurrent path
  have hread' := hkeeps.read hread
  have hthere : ready.files.isThere (filePath s.environment path) = true := by
    unfold FileStore.isThere
    rw [FileStore.read_eq_ok_iff.1 hread']
    rfl
  have hfile : readFile ready.files (filePath s.environment path) = .ok (.object ms) := by
    unfold readFile
    rw [hread']
    exact hcontent
  unfold load
  rw [run_bind, hpath]
  dsimp only
  rw [run_get, run_ask, hthere, if_pos rfl, run_ask, hfile, henvironment]
  exact ⟨ready, rfl⟩

/-- **What was saved is loaded.** Every key of the configuration has its value, every other known
    key the default, and there are no more keys and none twice. A configuration with all known keys
    is loaded as it is. -/
theorem load_save (hplain : Plain (.object ms)) (hwritable : Writable path s) :
    ∃ saved loaded after,
      (save ms path).run s = (.ok (), saved) ∧ (load path).run saved = (loaded, after) ∧
      (Members.keys loaded).Nodup ∧
      (∀ key, Members.get? loaded key = (Members.get? ms key).or
        (Members.get? (Config.default s.environment.currentFolder).toMembers key)) ∧
      ((∀ name ∈ Settings.memberNames, name ∈ Members.keys ms) → loaded.Perm ms) := by
  -- no key comes twice, neither in what is saved nor among the defaults
  have hkeys : (Members.keys ms).Nodup := by
    cases hplain with
    | object hkeys hvalues => exact hkeys
  have hnames : Members.keys (Config.default s.environment.currentFolder).toMembers =
      Settings.memberNames := rfl
  have hdefaults : (Members.keys (Config.default s.environment.currentFolder).toMembers).Nodup :=
    hnames ▸ by decide
  -- the path is looked up again in the session that saving leaves, and is the same
  obtain ⟨saved, hsave, henvironment, hcurrent, hread⟩ := run_save hwritable ms
  rw [← henvironment] at hread
  obtain ⟨after, hload⟩ := run_load hcurrent hread (readContent_fileText hplain)
  rw [henvironment] at hload
  refine ⟨saved, _, after, hsave, hload, ?_, ?_, ?_⟩
  · exact Members.nodup_keys_update hdefaults ms
  · exact Members.get?_update hkeys _
  · intro hall
    exact Members.update_perm hdefaults hkeys (hnames ▸ hall)

/-! ## A sample -/

/-- A session without files. -/
def emptySession : Session where
  files := { root := .folder [], current := [] }
  log := []
  environment :=
    { values := [], currentFolder := "/", ownHome := none, homeOf := fun _ => none,
      patterns := { characterNamed := fun _ => none, room := 1000 } }

/-- Members with a known key, an unknown one, and characters that are escaped. -/
def sampleMembers : Members :=
  [("max_node_count", .int (-12)), ("note", .string "\x22 \\ \r\n \x01 \u00e9"),
   ("kept", .array [.null, .bool true, .object [("inside", .array [])]])]

theorem plain_sampleMembers : Plain (.object sampleMembers) := by
  have hinside : Plain (.object [("inside", .array [])]) := by
    refine .object (by decide) ?_
    rw [List.forall_mem_singleton]
    exact .array (List.forall_mem_nil _)
  have hkept : Plain (.array [.null, .bool true, .object [("inside", .array [])]]) := by
    refine .array ?_
    rw [List.forall_mem_cons, List.forall_mem_cons, List.forall_mem_singleton]
    exact ⟨.null, .bool true, hinside⟩
  refine .object (by decide) ?_
  unfold sampleMembers
  rw [List.forall_mem_cons, List.forall_mem_cons, List.forall_mem_singleton]
  exact ⟨.int (-12), .string _, hkept⟩

theorem writable_emptySession : Writable (some "/c.json") emptySession := by
  have hpath : (pathOr (some "/c.json")).run emptySession = ("/c.json", emptySession) := rfl
  have hfolder : Path.folder (emptySession.files.absolute "/c.json") = "/" := by decide +kernel
  have hlength : "/".length = 0 + 1 := by decide +kernel
  refine ⟨⟨[], rfl⟩, ?_⟩
  rw [hpath]
  unfold FileStore.canWrite FileStore.writeText
  rw [hfolder]
  unfold FileStore.makeFolders
  rw [hlength]
  -- the only test that does not evaluate is the one for a null character
  unfold FileStore.makeFoldersWithin FileStore.ensureFolder FileStore.makeFolder FileStore.write
    FileStore.edit FileStore.target FileStore.isFolder FileStore.entry FileStore.locate
  simp only [String.contains_char_eq]
  decide +kernel

theorem load_save_sampleMembers :
    Plain (.object sampleMembers) ∧ Writable (some "/c.json") emptySession ∧
    ∃ saved loaded after,
      (save sampleMembers (some "/c.json")).run emptySession = (.ok (), saved) ∧
      (load (some "/c.json")).run saved = (loaded, after) ∧
      Members.get? loaded "max_node_count" = some (.int (-12)) ∧
      Members.get? loaded "max_workers" = some (.int 4) := by
  obtain ⟨saved, loaded, after, hsave, hload, -, hlookup, -⟩ :=
    load_save plain_sampleMembers writable_emptySession
  refine ⟨plain_sampleMembers, writable_emptySession, saved, loaded, after, hsave, hload, ?_, ?_⟩
  · rw [hlookup]
    rfl
  · rw [hlookup]
    rfl

end SourceCensus.Config
