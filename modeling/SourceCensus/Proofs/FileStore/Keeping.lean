import SourceCensus.Proofs.FileStore.Paths

/-! # What a change keeps

    A store extends another one when what was a folder is a folder and what was a file is a file,
    with a content that is related to the one before (`Entry.Extends`). Setting an entry that is
    there to one that extends it keeps everything else (`Extends.set`), and so does adding an entry
    to a folder that is there (`Extends.set_new`).

    So a path that led somewhere leads there afterwards (`Keeps.locate`), and a file of which the
    content is kept is read as before (`Keeps.read`).
-/

namespace SourceCensus

open Text (Bytes)

namespace Entry

variable {e x y z : Entry} {entries entries' : List (String × Entry)} {name : String}
  {names place : List String} {related : Bytes → Bytes → Prop}

/-! ## Setting an entry -/

theorem setIn_eq_put (name : String) (e : Entry) (entries : List (String × Entry)) :
    setIn name e entries = Named.put name e entries := by
  induction entries with
  | nil => rfl
  | cons entry rest ih => rw [setIn, Named.put, ih]

theorem lookup_setIn (name other : String) (e : Entry) (entries : List (String × Entry)) :
    (setIn name e entries).lookup other =
      if other = name then some e else entries.lookup other := by
  rw [setIn_eq_put]
  exact Named.lookup_put name other e entries

theorem get?_set_self (e : Entry) (names : List String) (new : Entry) :
    (e.set names new).get? names = some new := by
  induction names generalizing e with
  | nil => cases e <;> rfl
  | cons name names ih =>
    cases e <;> rw [set, get?, child?, lookup_setIn, if_pos rfl, Option.bind_some, ih]

/-- Setting an entry of a folder that is there sets that folder. -/
theorem set_concat (h : e.get? place = some (.folder entries)) (name : String) (new : Entry) :
    e.set (place ++ [name]) new = e.set place (.folder (setIn name new entries)) := by
  induction place generalizing e with
  | nil =>
    rw [get?, Option.some.injEq] at h
    rw [h]
    rfl
  | cons n place ih =>
    rw [get?] at h
    obtain ⟨inner, hinner, hrest⟩ := Option.bind_eq_some_iff.1 h
    cases e with
    | file content => cases hinner
    | folder es =>
      have hlookup : es.lookup n = some inner := hinner
      rw [List.cons_append, set, set, hlookup, Option.getD_some, ih hrest]

/-! ## What is kept -/

/-- All that is in one entry is in the other one: folders as folders, and files as files with
    contents that are related. -/
structure Extends (related : Bytes → Bytes → Prop) (e e' : Entry) : Prop where
  folder : ∀ names entries, e.get? names = some (.folder entries) →
    ∃ entries', e'.get? names = some (.folder entries')
  file : ∀ names content, e.get? names = some (.file content) →
    ∃ content', e'.get? names = some (.file content') ∧ related content content'

namespace Extends

theorem refl (hrefl : ∀ c, related c c) (e : Entry) : Extends related e e :=
  ⟨fun _ entries h => ⟨entries, h⟩, fun _ content h => ⟨content, h, hrefl content⟩⟩

theorem trans (h : Extends Eq x y) (h' : Extends Eq y z) : Extends Eq x z := by
  constructor
  · intro names entries hx
    obtain ⟨entries', hy⟩ := h.folder names entries hx
    exact h'.folder names entries' hy
  · intro names content hx
    obtain ⟨content', hy, heq⟩ := h.file names content hx
    rw [heq]
    exact h'.file names content' hy

theorem isSome (h : Extends related x y) (hx : (x.get? names).isSome = true) :
    (y.get? names).isSome = true := by
  obtain ⟨inner, hinner⟩ := Option.isSome_iff_exists.1 hx
  cases inner with
  | file content =>
    obtain ⟨content', hy, -⟩ := h.file names content hinner
    rw [hy]
    rfl
  | folder entries =>
    obtain ⟨entries', hy⟩ := h.folder names entries hinner
    rw [hy]
    rfl

/-- A folder in which all entries are kept. -/
theorem of_entries (h : ∀ name x, entries.lookup name = some x →
      ∃ y, entries'.lookup name = some y ∧ Extends related x y) :
    Extends related (.folder entries) (.folder entries') := by
  constructor
  · -- a folder below is below an entry, and the other folder has an entry that extends it
    intro names es hfolder
    cases names with
    | nil => exact ⟨entries', rfl⟩
    | cons name names =>
      rw [get?] at hfolder
      obtain ⟨x, hx, hrest⟩ := Option.bind_eq_some_iff.1 hfolder
      obtain ⟨y, hy, hxy⟩ := h name x hx
      rw [get?, child?, hy, Option.bind_some]
      exact hxy.folder names es hrest
  · intro names content hfile
    cases names with
    | nil => cases hfile
    | cons name names =>
      rw [get?] at hfile
      obtain ⟨x, hx, hrest⟩ := Option.bind_eq_some_iff.1 hfile
      obtain ⟨y, hy, hxy⟩ := h name x hx
      rw [get?, child?, hy, Option.bind_some]
      exact hxy.file names content hrest

/-- **Setting what is there** keeps all else, and what is set if the new entry extends it. -/
theorem set (hrefl : ∀ c, related c c) (h : e.get? names = some x) (hxy : Extends related x y) :
    Extends related e (e.set names y) := by
  induction names generalizing e with
  | nil =>
    rw [get?, Option.some.injEq] at h
    rw [h]
    -- the new entry takes the place of the old one, whatever that was
    cases x <;> exact hxy
  | cons name names ih =>
    rw [get?] at h
    obtain ⟨inner, hinner, hrest⟩ := Option.bind_eq_some_iff.1 h
    cases e with
    | file content => cases hinner
    | folder es =>
      have hlookup : es.lookup name = some inner := hinner
      rw [Entry.set, hlookup, Option.getD_some]
      -- only the entry under the first name changes, and it does so further down
      apply of_entries
      intro other x hx
      rw [lookup_setIn]
      by_cases heq : other = name
      · rw [heq, hlookup, Option.some.injEq] at hx
        rw [if_pos heq]
        exact ⟨_, rfl, hx ▸ ih hrest⟩
      · rw [if_neg heq]
        exact ⟨x, hx, refl hrefl x⟩

/-- **Adding an entry** to a folder that is there keeps everything. -/
theorem set_new (hrefl : ∀ c, related c c) (h : e.get? place = some (.folder entries))
    (hnew : entries.lookup name = none) (new : Entry) :
    Extends related e (e.set (place ++ [name]) new) := by
  rw [set_concat h]
  apply set hrefl h
  apply of_entries
  intro other x hx
  have hne : other ≠ name := by
    intro heq
    rw [heq, hnew] at hx
    cases hx
  rw [lookup_setIn, if_neg hne]
  exact ⟨x, hx, refl hrefl x⟩

end Extends

/-- Another content for a file. -/
theorem extends_file (content content' : Bytes) :
    Extends (fun _ _ => True) (.file content) (.file content') := by
  constructor
  · intro names entries h
    cases names with
    | nil => cases h
    | cons name names => cases h
  · intro names c h
    cases names with
    | nil => exact ⟨content', rfl, trivial⟩
    | cons name names => cases h

end Entry

namespace FileStore

open Entry (Extends)

variable {fs fs' fs'' : FileStore} {p part : String} {place next parts : List String}
  {entries : List (String × Entry)} {content : Bytes} {related : Bytes → Bytes → Prop}

/-! ## Paths afterwards -/

/-- The current folder is there. -/
def HasCurrent (fs : FileStore) : Prop :=
  ∃ entries, fs.root.get? fs.current = some (.folder entries)

/-- A store that extends another one, with the same current folder. -/
structure Keeps (related : Bytes → Bytes → Prop) (fs fs' : FileStore) : Prop where
  root : Extends related fs.root fs'.root
  current : fs'.current = fs.current

theorem Keeps.refl (fs : FileStore) : Keeps Eq fs fs := ⟨.refl (fun _ => rfl) fs.root, rfl⟩

theorem Keeps.trans (h : Keeps Eq fs fs') (h' : Keeps Eq fs' fs'') : Keeps Eq fs fs'' :=
  ⟨h.root.trans h'.root, h'.current.trans h.current⟩

theorem Keeps.hasCurrent (h : Keeps related fs fs') (hcurrent : fs.HasCurrent) :
    fs'.HasCurrent := by
  obtain ⟨entries, hentries⟩ := hcurrent
  unfold HasCurrent
  rw [h.current]
  exact h.root.folder fs.current entries hentries

theorem step_of_extends (h : Extends related fs.root fs'.root)
    (hstep : fs.step place part = .ok next) :
    fs'.step place part = .ok next := by
  obtain ⟨entries, hplace, hcases⟩ := step_eq_ok hstep
  obtain ⟨entries', hplace'⟩ := h.folder place entries hplace
  rcases hcases with ⟨hstay, rfl⟩ | ⟨hup, rfl⟩ | ⟨hordinary, hthere, rfl⟩
  · rw [step_folder hplace', if_pos hstay]
  · have hstay : ¬ (part = "" ∨ part = ".") := by
      rw [hup]
      decide
    rw [step_folder hplace', if_neg hstay, if_pos hup]
  · apply step_ordinary hplace' hordinary
    rw [← Entry.get?_concat hplace] at hthere
    rw [← Entry.get?_concat hplace']
    exact h.isSome hthere

/-- **A walk that reached a place reaches it again.** -/
theorem walk_of_extends (h : Extends related fs.root fs'.root)
    (hwalk : fs.walk place parts = .ok next) : fs'.walk place parts = .ok next := by
  induction parts generalizing place with
  | nil => exact hwalk
  | cons part parts ih =>
    rw [walk] at hwalk ⊢
    cases hstep : fs.step place part with
    | error cause =>
      rw [hstep] at hwalk
      cases hwalk
    | ok between =>
      rw [hstep] at hwalk
      rw [step_of_extends h hstep]
      exact ih hwalk

theorem Keeps.start (h : Keeps related fs fs') (p : String) : fs'.start p = fs.start p := by
  unfold FileStore.start
  rw [h.current]

theorem Keeps.locate (h : Keeps related fs fs') (hlocate : fs.locate p = .ok place) :
    fs'.locate p = .ok place := by
  obtain ⟨hnull, hne, hwalk⟩ := locate_eq_ok_iff.1 hlocate
  refine locate_eq_ok_iff.2 ⟨hnull, hne, ?_⟩
  rw [h.start p]
  exact walk_of_extends h.root hwalk

/-- **A file keeps its content** where nothing is changed. -/
theorem Keeps.read (h : Keeps Eq fs fs') (hread : fs.read p = .ok content) :
    fs'.read p = .ok content := by
  rw [read_eq_ok_iff, entry_eq_ok_iff] at hread ⊢
  obtain ⟨place, hlocate, hplace⟩ := hread
  obtain ⟨content', hplace', rfl⟩ := h.root.file place content hplace
  exact ⟨place, h.locate hlocate, hplace'⟩

/-! ## Where a walk ends -/

theorem isSome_dropLast (h : (fs.root.get? place).isSome = true) :
    (fs.root.get? place.dropLast).isSome = true := by
  by_cases hnil : place = []
  · rw [hnil]
    rfl
  · rw [← List.dropLast_append_getLast hnil, Entry.get?_append] at h
    cases hlead : fs.root.get? place.dropLast with
    | none =>
      rw [hlead] at h
      cases h
    | some x => rfl

theorem isSome_of_step (h : (fs.root.get? place).isSome = true)
    (hstep : fs.step place part = .ok next) : (fs.root.get? next).isSome = true := by
  obtain ⟨entries, hplace, ⟨-, rfl⟩ | ⟨-, rfl⟩ | ⟨-, hthere, rfl⟩⟩ := step_eq_ok hstep
  · exact h
  · exact isSome_dropLast h
  · rwa [Entry.get?_concat hplace]

/-- A walk from something that is there ends at something that is there. -/
theorem isSome_of_walk (h : (fs.root.get? place).isSome = true)
    (hwalk : fs.walk place parts = .ok next) : (fs.root.get? next).isSome = true := by
  induction parts generalizing place with
  | nil =>
    cases hwalk
    exact h
  | cons part parts ih =>
    rw [walk] at hwalk
    cases hstep : fs.step place part with
    | error cause =>
      rw [hstep] at hwalk
      cases hwalk
    | ok between =>
      rw [hstep] at hwalk
      exact ih (isSome_of_step h hstep) hwalk

theorem HasCurrent.isSome_start (h : fs.HasCurrent) (p : String) :
    (fs.root.get? (fs.start p)).isSome = true := by
  obtain ⟨entries, hentries⟩ := h
  unfold start
  split
  · rfl
  · rw [hentries]
    rfl

/-- What a step does not find in a folder is not one of its entries. -/
theorem step_eq_missing (hthere : (fs.root.get? place).isSome = true)
    (h : fs.step place part = .error .missing) :
    isOrdinary part = true ∧
      ∃ entries, fs.root.get? place = some (.folder entries) ∧ entries.lookup part = none := by
  obtain ⟨x, hx⟩ := Option.isSome_iff_exists.1 hthere
  cases x with
  | file content =>
    rw [step, hx] at h
    cases h
  | folder entries =>
    rw [step_folder hx] at h
    -- of the five ways to take a step only the last one finds nothing
    split at h
    · cases h
    · split at h
      · cases h
      · split at h
        · cases h
        · split at h
          · cases h
          · rename_i hstay hup hlong hnone
            refine ⟨isOrdinary_iff.2 ⟨hstay, hup, hlong⟩, entries, hx, ?_⟩
            rwa [Bool.not_eq_true, Option.isSome_eq_false_iff, Option.isNone_iff_eq_none] at hnone

end FileStore

end SourceCensus
