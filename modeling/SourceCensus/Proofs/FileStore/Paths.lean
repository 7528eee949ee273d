import SourceCensus.Proofs.Named
import SourceCensus.Proofs.Survey.Outline

/-! # Following paths

    A step leads from a folder to itself, to the folder above, or to one of its entries
    (`step_eq_ok`). So the path of an entry leads to the entry when the path of its folder
    leads to the folder (`entry_join`), and the path of what is selected leads to what is selected
    (`entry_of_selected`).

    This needs names that can be followed (`isEntryName`): one with a slash would be two parts, and
    a part of two dots leads up.
-/

namespace SourceCensus

variable {fs : FileStore} {e x : Entry} {entries : List (String × Entry)}
  {name part path p : String}
  {place next : List String} {cause : FileError.Cause}

namespace Entry

/-! ## Entries along names -/

theorem get?_append (e : Entry) (names others : List String) :
    e.get? (names ++ others) = (e.get? names).bind (·.get? others) := by
  induction names generalizing e with
  | nil =>
    rw [get?, Option.bind_some]
    rfl
  | cons name names ih =>
    rw [List.cons_append, get?, get?]
    cases e.child? name with
    | none => rfl
    | some inner => exact ih inner

/-- The entry of a folder under a name. -/
theorem get?_concat (h : e.get? place = some (.folder entries)) (name : String) :
    e.get? (place ++ [name]) = entries.lookup name := by
  rw [get?_append, h, Option.bind_some, get?, child?]
  cases entries.lookup name with
  | none => rfl
  | some inner =>
    rw [Option.bind_some]
    rfl

end Entry

namespace FileStore

/-! ## Steps and walks -/

/-- A part of a path that stands for an entry, and can. -/
def isOrdinary (part : String) : Bool :=
  part ≠ "" && part ≠ "." && part ≠ ".." && part.utf8ByteSize ≤ longestName

theorem isOrdinary_iff : isOrdinary part = true ↔
    ¬ (part = "" ∨ part = ".") ∧ part ≠ ".." ∧ ¬ longestName < part.utf8ByteSize := by
  unfold isOrdinary
  rw [Bool.and_eq_true, Bool.and_eq_true, Bool.and_eq_true, decide_eq_true_eq, decide_eq_true_eq,
    decide_eq_true_eq, decide_eq_true_eq, not_or, and_assoc, and_assoc, and_assoc, Nat.not_lt]

/-- **What a step from a folder does:** it stays, goes up, or goes to an entry that is there. -/
theorem step_folder (hplace : fs.root.get? place = some (.folder entries)) (part : String) :
    fs.step place part =
      if part = "" ∨ part = "." then .ok place
      else if part = ".." then .ok place.dropLast
      else if longestName < part.utf8ByteSize then .error .nameTooLong
      else if (entries.lookup part).isSome then .ok (place ++ [part])
      else .error .missing := by
  unfold step
  rw [hplace]
  simp only [Bool.or_eq_true, decide_eq_true_eq]

/-- Where a step can lead. -/
theorem step_eq_ok (h : fs.step place part = .ok next) :
    ∃ entries, fs.root.get? place = some (.folder entries) ∧
      ((part = "" ∨ part = ".") ∧ next = place ∨ part = ".." ∧ next = place.dropLast ∨
        isOrdinary part = true ∧ (entries.lookup part).isSome = true ∧ next = place ++ [part]) := by
  cases hplace : fs.root.get? place with
  | none =>
    rw [step, hplace] at h
    cases h
  | some x =>
    cases x with
    | file content =>
      rw [step, hplace] at h
      cases h
    | folder entries =>
      refine ⟨entries, rfl, ?_⟩
      rw [step_folder hplace] at h
      -- a part that stays, one that goes up, one that is too long, and a name
      split at h
      · rename_i hstay
        cases h
        exact .inl ⟨hstay, rfl⟩
      · split at h
        · rename_i hup
          cases h
          exact .inr (.inl ⟨hup, rfl⟩)
        · split at h
          · cases h
          · split at h
            · rename_i hstay hup hlong hthere
              cases h
              exact .inr (.inr ⟨isOrdinary_iff.2 ⟨hstay, hup, hlong⟩, hthere, rfl⟩)
            · cases h

/-- A step to an entry that is there. -/
theorem step_ordinary (hplace : fs.root.get? place = some (.folder entries))
    (hpart : isOrdinary part = true) (hthere : (entries.lookup part).isSome = true) :
    fs.step place part = .ok (place ++ [part]) := by
  obtain ⟨hstay, hup, hlong⟩ := isOrdinary_iff.1 hpart
  rw [step_folder hplace, if_neg hstay, if_neg hup, if_neg hlong, if_pos hthere]

theorem walk_append (fs : FileStore) (place parts others : List String) :
    fs.walk place (parts ++ others) = (fs.walk place parts).bind (fs.walk · others) := by
  induction parts generalizing place with
  | nil => rfl
  | cons part parts ih =>
    rw [List.cons_append, walk, walk]
    cases fs.step place part with
    | error cause => rfl
    | ok next => exact ih next

theorem walk_singleton (fs : FileStore) (place : List String) (part : String) :
    fs.walk place [part] = fs.step place part := by
  rw [walk]
  cases fs.step place part <;> rfl

/-- A walk in several steps that reaches a place. -/
theorem walk_append_eq_ok_iff {parts others : List String} :
    fs.walk place (parts ++ others) = .ok next ↔
      ∃ between, fs.walk place parts = .ok between ∧ fs.walk between others = .ok next := by
  rw [walk_append]
  cases fs.walk place parts with
  | error cause => simp [Except.bind]
  | ok between => simp [Except.bind]

/-! ## Paths -/

theorem entry_eq_ok_iff : fs.entry p = .ok e ↔
    ∃ place, fs.locate p = .ok place ∧ fs.root.get? place = some e := by
  unfold entry
  cases fs.locate p with
  | error cause => simp
  | ok place => cases h : fs.root.get? place <;> simp [h]

/-- A path that names something is not empty and has no null character. -/
theorem locate_eq_ok_iff : fs.locate p = .ok place ↔
    Char.ofNat 0 ∉ p.toList ∧ p ≠ "" ∧ fs.walk (fs.start p) (Path.parts p) = .ok place := by
  unfold locate
  rw [String.contains_char_eq]
  by_cases hnull : Char.ofNat 0 ∈ p.toList
  · simp [hnull]
  · by_cases hempty : p = ""
    · simp [hempty]
    · simp [hnull, hempty]

theorem list_eq_ok_iff : fs.list p = .ok entries ↔ fs.entry p = .ok (.folder entries) := by
  unfold list
  cases fs.entry p with
  | error cause => simp
  | ok e => cases e <;> simp

theorem read_eq_ok_iff {content : Text.Bytes} :
    fs.read p = .ok content ↔ fs.entry p = .ok (.file content) := by
  unfold read
  cases fs.entry p with
  | error cause => simp
  | ok e => cases e <;> simp

/-! ## The entries of a folder -/

/-- A name that an entry has and that a path can lead to. -/
def isEntryName (name : String) : Bool :=
  Path.isName name && isOrdinary name && name.toList.all (· ≠ Char.ofNat 0)

/-- The path of a folder and the path of an entry in it start at the same place. -/
theorem start_join (hname : Path.isName name = true) (hne : path ≠ "") :
    fs.start (Path.join path name) = fs.start path := by
  have hstarts : (Path.join path name).startsWith "/" = path.startsWith "/" := by
    rw [Bool.eq_iff_iff, String.startsWith_string_iff, String.startsWith_string_iff,
      Path.toList_join hname]
    -- the stem begins with the path, which has a first character
    have hlist : path.toList ≠ [] := fun hnil => hne (String.toList_eq_nil_iff.1 hnil)
    obtain ⟨c, rest, hpath⟩ := List.exists_cons_of_ne_nil hlist
    have hstem : ∃ tail, Path.stem path ++ name.toList = c :: tail := by
      unfold Path.stem
      rw [hpath]
      split <;> exact ⟨_, rfl⟩
    obtain ⟨tail, htail⟩ := hstem
    rw [htail, hpath]
    show ['/'] <+: c :: tail ↔ ['/'] <+: c :: rest
    simp
  unfold start
  rw [hstarts]

/-- **The path of an entry** leads to the entry, if the path of its folder leads to the folder. -/
theorem entry_join (hpath : fs.entry path = .ok (.folder entries))
    (hname : isEntryName name = true) (hentry : entries.lookup name = some e) :
    fs.entry (Path.join path name) = .ok e := by
  obtain ⟨place, hlocate, hplace⟩ := entry_eq_ok_iff.1 hpath
  obtain ⟨hnull, hne, hwalk⟩ := locate_eq_ok_iff.1 hlocate
  unfold isEntryName at hname
  rw [Bool.and_eq_true, Bool.and_eq_true, List.all_eq_true] at hname
  obtain ⟨⟨hproper, hordinary⟩, hnames⟩ := hname
  have hnull' : Char.ofNat 0 ∉ name.toList := fun hmem => of_decide_eq_true (hnames _ hmem) rfl
  -- in the folder the name is a step to the entry
  have hstep : fs.step place name = .ok (place ++ [name]) :=
    step_ordinary hplace hordinary (by rw [hentry]; rfl)
  have hlist : (Path.join path name).toList = Path.stem path ++ name.toList :=
    Path.toList_join hproper
  obtain ⟨lead, hparts, hlead⟩ := Path.parts_join hproper hne
  -- with or without the empty part at its end, the path of the folder leads to the folder
  have hfront : fs.walk (fs.start path) lead = .ok place := by
    rcases hlead with hlead | hlead
    · rwa [hlead] at hwalk
    · rw [hlead, walk_append_eq_ok_iff] at hwalk
      obtain ⟨between, hbetween, hlast⟩ := hwalk
      rw [walk_singleton] at hlast
      obtain ⟨-, -, ⟨-, rfl⟩ | ⟨hup, -⟩ | ⟨hpart, -⟩⟩ := step_eq_ok hlast
      · exact hbetween
      · exact absurd hup (by decide)
      · exact absurd hpart (by decide)
  refine entry_eq_ok_iff.2 ⟨place ++ [name], locate_eq_ok_iff.2 ⟨?_, ?_, ?_⟩, ?_⟩
  · -- no null character comes in, neither with the path nor with the name
    rw [hlist, List.mem_append, not_or]
    refine ⟨?_, hnull'⟩
    unfold Path.stem
    split
    · exact hnull
    · rw [List.mem_append, not_or]
      exact ⟨hnull, by decide⟩
  · intro hempty
    rw [hempty] at hlist
    have hnil := (List.append_eq_nil_iff.1 hlist.symm).2
    exact (Path.isName_iff.1 hproper).1 hnil
  · rw [start_join hproper hne, hparts, walk_append_eq_ok_iff]
    exact ⟨place, hfront, by rw [walk_singleton]; exact hstep⟩
  · rw [Entry.get?_concat hplace, hentry]

end FileStore

/-! ## What is selected -/

namespace Entry

mutual

/-- All names in an entry have a property. -/
def namesHold (property : String → Bool) : Entry → Bool
  | .file _ => true
  | .folder entries => allNamesHold property entries

/-- The same for what is in a folder, with the names of the entries. -/
def allNamesHold (property : String → Bool) : List (String × Entry) → Bool
  | [] => true
  | (name, e) :: rest => property name && e.namesHold property && allNamesHold property rest

end

theorem namesHold_of_mem {property : String → Bool}
    (h : (Entry.folder entries).namesHold property = true) (hmem : (name, e) ∈ entries) :
    property name = true ∧ e.namesHold property = true := by
  rw [namesHold] at h
  induction entries with
  | nil => cases hmem
  | cons entry rest ih =>
    rw [allNamesHold, Bool.and_eq_true, Bool.and_eq_true] at h
    rcases List.mem_cons.1 hmem with rfl | hrest
    · exact h.1
    · exact ih h.2 hrest

/-- Every folder has entries with names that can be followed, no two of them alike. -/
def isProper (e : Entry) : Bool := e.wellNamed && e.namesHold FileStore.isEntryName

theorem isProper_iff :
    e.isProper = true ↔ e.wellNamed = true ∧ e.namesHold FileStore.isEntryName = true := by
  rw [isProper, Bool.and_eq_true]

theorem isProper_of_mem (h : (Entry.folder entries).isProper = true) (hmem : (name, e) ∈ entries) :
    FileStore.isEntryName name = true ∧ entries.lookup name = some e ∧ e.isProper = true := by
  obtain ⟨hwell, hnames⟩ := isProper_iff.1 h
  obtain ⟨hnodup, hinside⟩ := wellNamed_folder_iff.1 hwell
  obtain ⟨hname, he⟩ := namesHold_of_mem hnames hmem
  exact ⟨hname, Named.lookup_of_mem hnodup hmem, isProper_iff.2 ⟨(hinside name e hmem).2, he⟩⟩

/-- What is in a proper entry is proper. -/
theorem isProper_get? (h : e.isProper = true) (hx : e.get? place = some x) : x.isProper = true := by
  induction place generalizing e with
  | nil =>
    rw [get?, Option.some.injEq] at hx
    exact hx ▸ h
  | cons name names ih =>
    rw [get?] at hx
    obtain ⟨inner, hinner, hrest⟩ := Option.bind_eq_some_iff.1 hx
    cases e with
    | file content => cases hinner
    | folder entries =>
      have hmem : (name, inner) ∈ entries := Named.mem_of_lookup hinner
      exact ih (isProper_of_mem h hmem).2.2 hrest

end Entry

namespace FileStore

/-- **What is selected is found under its path.** -/
theorem entry_of_selected {chooser : Survey.Chooser} (hsel : Survey.Selected chooser path e p x)
    (hproper : e.isProper = true) (hentry : fs.entry path = .ok e) : fs.entry p = .ok x := by
  induction hsel with
  | self => exact hentry
  | inside hmem _ _ ih =>
    obtain ⟨hname, hlookup, hinner⟩ := Entry.isProper_of_mem hproper hmem
    exact ih hinner (entry_join hentry hname hlookup)

end FileStore

end SourceCensus
