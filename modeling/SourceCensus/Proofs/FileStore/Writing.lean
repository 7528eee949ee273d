import SourceCensus.Proofs.FileStore.Keeping

/-! # Writing files

    Making folders adds entries and changes none (`keeps_makeFolders`). Writing a file changes the
    content of one that is there or adds one to a folder that is there, and nothing else
    (`edit_eq_ok`). So a file that could be written is read with the content that was written
    (`read_write`, `read_writeText`). Whether it can be written does not depend on that content
    (`writeText_ok_iff`).

    All this needs a current folder that is there: a path of two dots names the folder above it, and
    would name a new file otherwise.
-/

namespace SourceCensus.FileStore

open Text (Bytes)
open Entry (Extends)

variable {fs fs' made : FileStore} {p part : String} {place : List String} {content : Bytes}
  {change : Bytes → Bytes}

/-! ## The target of a path -/

theorem target_eq_ok_iff : fs.target p = .ok (place, part) ↔
    Char.ofNat 0 ∉ p.toList ∧ p ≠ "" ∧
      fs.walk (fs.start p) (Path.parts (bare p)).dropLast = .ok place ∧
      (Path.parts (bare p)).getLast?.getD "" = part := by
  unfold target
  rw [String.contains_char_eq]
  by_cases hnull : Char.ofNat 0 ∈ p.toList
  · simp [hnull]
  · by_cases hempty : p = ""
    · simp [hempty]
    · cases hwalk : fs.walk (fs.start p) (Path.parts (bare p)).dropLast with
      | error cause => simp [hnull, hempty, hwalk]
      | ok found => simp [hnull, hempty, hwalk]

/-- The folder of a target is there. -/
theorem HasCurrent.isSome_target (h : fs.HasCurrent) (htarget : fs.target p = .ok (place, part)) :
    (fs.root.get? place).isSome = true := by
  obtain ⟨-, -, hwalk, -⟩ := target_eq_ok_iff.1 htarget
  exact isSome_of_walk (h.isSome_start p) hwalk

/-- A path without a slash at its end is bare. -/
theorem bare_of_not_endsWith (h : p.endsWith "/" = false) : bare p = p := by
  rw [Bool.eq_false_iff, ne_eq, Path.endsWith_slash_iff,
    List.singleton_suffix_iff_getLast?_eq_some] at h
  unfold bare
  rw [← List.head?_reverse] at h
  cases hrev : p.toList.reverse with
  | nil =>
    rw [List.reverse_eq_nil_iff] at hrev
    rw [List.dropWhile_nil, List.reverse_nil, ← hrev, String.ofList_toList]
  | cons c rest =>
    have hc : c ≠ '/' := by
      intro heq
      rw [hrev, heq] at h
      exact h rfl
    rw [List.dropWhile_cons_of_neg (by simpa using hc), ← hrev, List.reverse_reverse,
      String.ofList_toList]

/-! ## Making folders -/

theorem keeps_makeFolder (hcurrent : fs.HasCurrent) (h : fs.makeFolder p = .ok made) :
    Keeps Eq fs made := by
  unfold makeFolder at h
  cases htarget : fs.target p with
  | error cause =>
    rw [htarget] at h
    cases h
  | ok found =>
    obtain ⟨place, part⟩ := found
    rw [htarget] at h
    dsimp only at h
    split at h
    · cases h
    · rename_i hmissing
      cases h
      obtain ⟨-, entries, hplace, hnew⟩ :=
        step_eq_missing (hcurrent.isSome_target htarget) hmissing
      exact ⟨.set_new (fun _ => rfl) hplace hnew .emptyFolder, rfl⟩
    · cases h

theorem keeps_ensureFolder (hcurrent : fs.HasCurrent) (p : String) :
    Keeps Eq fs (fs.ensureFolder p).1 := by
  unfold ensureFolder
  cases hmade : fs.makeFolder p with
  | error e => exact .refl fs
  | ok made => exact keeps_makeFolder hcurrent hmade

/-- The store after making folders: that after an attempt to make the last one, in the store after
    making those before it. -/
theorem makeFoldersWithin_cases (fuel : Nat) (fs : FileStore) (p : String) :
    (makeFoldersWithin (fuel + 1) fs p).1 = (fs.ensureFolder p).1 ∨
      ∃ lead, (makeFoldersWithin (fuel + 1) fs p).1 = (makeFoldersWithin fuel fs lead).1 ∨
        (makeFoldersWithin (fuel + 1) fs p).1 =
          ((makeFoldersWithin fuel fs lead).1.ensureFolder p).1 := by
  rw [makeFoldersWithin]
  split
  rename_i lead last hsplit
  by_cases hlead : (decide (lead ≠ "") && decide (last ≠ "") && !fs.isThere lead) = true
  · -- the folder before it is missing, so it is made first, and that may fail
    right
    refine ⟨lead, ?_⟩
    rw [if_pos hlead]
    cases hmade : makeFoldersWithin fuel fs lead with
    | mk made outcome =>
      cases outcome with
      | error e =>
        dsimp only
        split
        · split
          · exact .inl rfl
          · exact .inr rfl
        · exact .inl rfl
      | ok u =>
        dsimp only
        split
        · exact .inl rfl
        · exact .inr rfl
  · rw [if_neg hlead]
    exact .inl rfl

/-- **Making folders** changes nothing that is there. -/
theorem keeps_makeFoldersWithin (fuel : Nat) (hcurrent : fs.HasCurrent) (p : String) :
    Keeps Eq fs (makeFoldersWithin fuel fs p).1 := by
  induction fuel generalizing p with
  | zero => exact keeps_ensureFolder hcurrent p
  | succ fuel ih =>
    rcases makeFoldersWithin_cases fuel fs p with hensure | ⟨lead, hmade | hensure⟩
    · rw [hensure]
      exact keeps_ensureFolder hcurrent p
    · rw [hmade]
      exact ih lead
    · rw [hensure]
      exact (ih lead).trans (keeps_ensureFolder ((ih lead).hasCurrent hcurrent) p)

theorem keeps_makeFolders (hcurrent : fs.HasCurrent) (p : String) :
    Keeps Eq fs (fs.makeFolders p).1 :=
  keeps_makeFoldersWithin p.length hcurrent p

/-! ## Writing a file -/

/-- A path that ends in a slash names no file. -/
theorem not_endsWith_of_edit (hcurrent : fs.HasCurrent) (h : fs.edit p change = .ok fs') :
    p.endsWith "/" = false := by
  rw [← Bool.not_eq_true]
  intro hend
  unfold edit at h
  cases htarget : fs.target p with
  | error cause =>
    rw [htarget] at h
    cases h
  | ok found =>
    obtain ⟨place, part⟩ := found
    obtain ⟨x, hx⟩ := Option.isSome_iff_exists.1 (hcurrent.isSome_target htarget)
    rw [htarget] at h
    dsimp only at h
    rw [if_pos hend] at h
    -- the place is in the store: in a file no step can be taken, and a folder is no file
    cases x with
    | file content =>
      rw [step, hx] at h
      cases h
    | folder entries =>
      rw [step_folder hx, if_pos (.inl rfl)] at h
      dsimp only at h
      rw [hx] at h
      cases h

/-- **What an edit does:** it changes a file that is there, or adds one to a folder that is
    there. -/
theorem edit_eq_ok (hcurrent : fs.HasCurrent) (h : fs.edit p change = .ok fs') :
    ∃ lead part place, Char.ofNat 0 ∉ p.toList ∧ p ≠ "" ∧ Path.parts p = lead ++ [part] ∧
      fs.walk (fs.start p) lead = .ok place ∧
      ((∃ found before, fs.step place part = .ok found ∧
          fs.root.get? found = some (.file before) ∧
          fs' = fs.setAt found (.file (change before))) ∨
        fs.step place part = .error .missing ∧
          fs' = fs.setAt (place ++ [part]) (.file (change []))) := by
  have hend := not_endsWith_of_edit hcurrent h
  unfold edit at h
  cases htarget : fs.target p with
  | error cause =>
    rw [htarget] at h
    cases h
  | ok target =>
    obtain ⟨place, part⟩ := target
    obtain ⟨hnull, hne, hwalk, hpart⟩ := target_eq_ok_iff.1 htarget
    rw [bare_of_not_endsWith hend] at hwalk hpart
    -- the last part of the path is the one that the edit is about
    have hparts : Path.parts p = (Path.parts p).dropLast ++ [part] := by
      have hsplit : Path.parts p ≠ [] := by
        unfold Path.parts
        rw [ne_eq, List.map_eq_nil_iff]
        exact Path.split_ne_nil p.toList
      rw [List.getLast?_eq_some_getLast hsplit, Option.getD_some] at hpart
      rw [← hpart, List.dropLast_append_getLast]
    refine ⟨_, part, place, hnull, hne, hparts, hwalk, ?_⟩
    rw [htarget] at h
    dsimp only at h
    rw [if_neg (by rw [hend]; exact Bool.false_ne_true)] at h
    -- the last part leads to something or to nothing that is there yet
    cases hstep : fs.step place part with
    | ok found =>
      rw [hstep] at h
      dsimp only at h
      split at h
      · rename_i before hfile
        cases h
        exact .inl ⟨found, before, rfl, hfile, rfl⟩
      · cases h
    | error cause =>
      rw [hstep] at h
      cases cause with
      | missing =>
        cases h
        exact .inr ⟨rfl, rfl⟩
      | _ => cases h

/-- **A file that was edited is there** with what the edit made of its content, and all else is
    kept. -/
theorem read_edit (hcurrent : fs.HasCurrent) (h : fs.edit p change = .ok fs') :
    Keeps (fun _ _ => True) fs fs' ∧ ∃ before, fs'.read p = .ok (change before) := by
  obtain ⟨lead, part, place, hnull, hne, hparts, hwalk,
    ⟨found, before, hstep, hfile, rfl⟩ | ⟨hstep, rfl⟩⟩ := edit_eq_ok hcurrent h
  · -- the file was there, so the path leads to it as before
    have hkeeps : Keeps (fun _ _ => True) fs (fs.setAt found (.file (change before))) :=
      ⟨.set (fun _ => trivial) hfile (Entry.extends_file _ _), rfl⟩
    have hlocate : fs.locate p = .ok found := by
      refine locate_eq_ok_iff.2 ⟨hnull, hne, ?_⟩
      rw [hparts, walk_append_eq_ok_iff]
      exact ⟨place, hwalk, by rw [walk_singleton]; exact hstep⟩
    refine ⟨hkeeps, before, ?_⟩
    rw [read_eq_ok_iff, entry_eq_ok_iff]
    exact ⟨found, hkeeps.locate hlocate, Entry.get?_set_self _ _ _⟩
  · -- the file is new, so the path did not lead to it before
    have hthere := isSome_of_walk (hcurrent.isSome_start p) hwalk
    obtain ⟨hordinary, entries, hplace, hnew⟩ := step_eq_missing hthere hstep
    have hkeeps : Keeps (fun _ _ => True) fs (fs.setAt (place ++ [part]) (.file (change []))) :=
      ⟨.set_new (fun _ => trivial) hplace hnew _, rfl⟩
    obtain ⟨entries', hplace'⟩ := hkeeps.root.folder place entries hplace
    -- setting the new file has put it into the folder
    have hentry : entries'.lookup part = some (.file (change [])) := by
      rw [← Entry.get?_concat hplace']
      exact Entry.get?_set_self _ _ _
    refine ⟨hkeeps, [], ?_⟩
    rw [read_eq_ok_iff, entry_eq_ok_iff]
    refine ⟨place ++ [part], locate_eq_ok_iff.2 ⟨hnull, hne, ?_⟩, Entry.get?_set_self _ _ _⟩
    rw [hparts, walk_append_eq_ok_iff]
    refine ⟨place, ?_, ?_⟩
    · rw [hkeeps.start p]
      exact walk_of_extends hkeeps.root hwalk
    · rw [walk_singleton]
      exact step_ordinary hplace' hordinary (by rw [hentry]; rfl)

/-- **What was written is read.** -/
theorem read_write (hcurrent : fs.HasCurrent) (h : fs.write p content = .ok fs') :
    Keeps (fun _ _ => True) fs fs' ∧ fs'.read p = .ok content := by
  obtain ⟨hkeeps, before, hread⟩ := read_edit hcurrent h
  exact ⟨hkeeps, hread⟩

/-! ## Writing a text -/

/-- **A text that was written is read** as the bytes that write it. -/
theorem read_writeText {t : Text} (hcurrent : fs.HasCurrent)
    (h : (fs.writeText p t).2 = .ok ()) :
    (fs.writeText p t).1.HasCurrent ∧ (fs.writeText p t).1.read p = .ok (Text.encode t) := by
  have hkeeps := keeps_makeFolders hcurrent (Path.folder (fs.absolute p))
  unfold writeText at h ⊢
  cases hmade : fs.makeFolders (Path.folder (fs.absolute p)) with
  | mk made outcome =>
    rw [hmade] at h hkeeps
    have hcurrent' := hkeeps.hasCurrent hcurrent
    cases outcome with
    | error e => cases h
    | ok u =>
      dsimp only at h ⊢
      cases hwrite : made.write p (Text.encode t) with
      | error e =>
        rw [hwrite] at h
        cases h
      | ok written =>
        obtain ⟨hkeeps', hread⟩ := read_write hcurrent' hwrite
        exact ⟨hkeeps'.hasCurrent hcurrent', hread⟩

/-- Whether an edit is possible does not depend on what it does to the content. -/
theorem exists_edit (change' : Bytes → Bytes) (h : fs.edit p change = .ok fs') :
    ∃ fs'', fs.edit p change' = .ok fs'' := by
  unfold edit at h ⊢
  cases htarget : fs.target p with
  | error cause =>
    rw [htarget] at h
    cases h
  | ok target =>
    obtain ⟨place, part⟩ := target
    rw [htarget] at h
    dsimp only at h ⊢
    -- both edits look at the same step and at the same entry
    split at h
    · split at h
      · exact ⟨_, rfl⟩
      · cases h
    · exact ⟨_, rfl⟩
    · cases h

/-- A text can be written under a path. -/
def canWrite (fs : FileStore) (p : String) : Bool := (fs.writeText p []).2.toBool

/-- **Where a text can be written, every text can.** -/
theorem writeText_of_canWrite (h : fs.canWrite p = true) (t : Text) :
    (fs.writeText p t).2 = .ok () := by
  unfold canWrite writeText at h
  unfold writeText
  cases hmade : fs.makeFolders (Path.folder (fs.absolute p)) with
  | mk made outcome =>
    rw [hmade] at h
    cases outcome with
    | error e => cases h
    | ok u =>
      dsimp only at h ⊢
      cases hwrite : made.write p (Text.encode []) with
      | error e =>
        rw [hwrite] at h
        cases h
      | ok written =>
        obtain ⟨written', hwrite'⟩ := exists_edit (fun _ => Text.encode t) hwrite
        unfold write
        rw [hwrite']

end SourceCensus.FileStore
