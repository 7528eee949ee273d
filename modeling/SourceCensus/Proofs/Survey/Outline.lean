import SourceCensus.Tree.Survey
import SourceCensus.Proofs.Path.Join
import Mathlib.Data.List.Nodup

/-! # What a survey lists

    A survey shows its `outline`: file by file and folder by folder, in pre-order, the path and the
    paths of what is listed in it.

    The survey of a folder lists an entry when the chooser takes it and has entered all folders on
    the way (`mem_outline_iff`, where `Selected` says so). Where the entries of every folder have
    proper names, no two alike, no path is listed twice (`nodup_paths`), and what is listed in a
    folder comes in ascending order of the names (`ascending_inside`).

    All this goes by induction on an entry (`Entry.induction`), with one equation for a single
    level (`ofEntries_eq`).
-/

namespace SourceCensus

namespace Entry

/-- What holds of every file, and of a folder when it holds of its entries, holds of all entries. -/
theorem induction {P : Entry → Prop} (hfile : ∀ content, P (.file content))
    (hfolder : ∀ entries, (∀ name e, (name, e) ∈ entries → P e) → P (.folder entries))
    (e : Entry) : P e := by
  cases e with
  | file content => exact hfile content
  | folder entries =>
    apply hfolder
    intro name e hmem
    have hsize := List.sizeOf_lt_of_mem hmem
    exact induction hfile hfolder e
termination_by sizeOf e
decreasing_by
  simp only [Prod.mk.sizeOf_spec, folder.sizeOf_spec] at hsize ⊢
  omega

/-- The entry is a file. -/
def isFile : Entry → Bool
  | .file _ => true
  | .folder _ => false

/-! ## Proper names -/

mutual

/-- The entries of every folder have proper names, no two of them alike. -/
def wellNamed : Entry → Bool
  | .file _ => true
  | .folder entries => decide (entries.map (·.1)).Nodup && allWellNamed entries

/-- The same for what is in a folder. -/
def allWellNamed : List (String × Entry) → Bool
  | [] => true
  | (name, e) :: rest => Path.isName name && e.wellNamed && allWellNamed rest

end

theorem allWellNamed_iff {entries : List (String × Entry)} : allWellNamed entries = true ↔
    ∀ name e, (name, e) ∈ entries → Path.isName name = true ∧ e.wellNamed = true := by
  induction entries with
  | nil => simp [allWellNamed]
  | cons entry rest ih =>
    obtain ⟨name, e⟩ := entry
    rw [allWellNamed, Bool.and_eq_true, Bool.and_eq_true, ih]
    constructor
    · rintro ⟨hfirst, hrest⟩ n x hmem
      rcases List.mem_cons.1 hmem with heq | hmem
      · cases heq
        exact hfirst
      · exact hrest n x hmem
    · intro hall
      exact ⟨hall name e (by simp), fun n x hmem => hall n x (by simp [hmem])⟩

theorem wellNamed_folder_iff {entries : List (String × Entry)} :
    (Entry.folder entries).wellNamed = true ↔ (entries.map (·.1)).Nodup ∧
      ∀ name e, (name, e) ∈ entries → Path.isName name = true ∧ e.wellNamed = true := by
  rw [wellNamed, Bool.and_eq_true, decide_eq_true_eq, allWellNamed_iff]

end Entry

namespace Survey

/-- The path of what is listed. -/
def path : Survey → String
  | .file path => path
  | .folder path _ => path

variable {chooser : Chooser} {here p name : String} {entries : List (String × Entry)} {e : Entry}
  {s : Survey}

/-! ## One level -/

/-- An entry with a path is listed if no folder above it is in the way. -/
def Chooser.takes (chooser : Chooser) (here : String) : Entry → Bool
  | .file _ => chooser.takesFile here
  | .folder _ => chooser.entersFolder here

/-- What is listed of an entry that is taken. -/
def ofEntry (chooser : Chooser) (here : String) : Entry → Survey
  | .file _ => .file here
  | .folder entries => ofFolder chooser here entries

@[simp] theorem path_ofEntry (chooser : Chooser) (here : String) (e : Entry) :
    (ofEntry chooser here e).path = here := by
  cases e <;> rfl

/-- **What is selected on one level:** the entries that are taken. -/
theorem ofEntries_eq (chooser : Chooser) (here : String) (entries : List (String × Entry)) :
    ofEntries chooser here entries =
      (entries.filter fun x => chooser.takes (Path.join here x.1) x.2).map
        fun x => (x.1, ofEntry chooser (Path.join here x.1) x.2) := by
  induction entries with
  | nil => simp [ofEntries]
  | cons entry rest ih =>
    obtain ⟨name, e⟩ := entry
    -- a file and a folder are asked for by different parts of the chooser
    cases e with
    | file content =>
      rw [ofEntries]
      by_cases h : chooser.takesFile (Path.join here name) = true
      · simp [h, ih, Chooser.takes, ofEntry]
      · simp [h, ih, Chooser.takes]
    | folder inner =>
      rw [ofEntries]
      by_cases h : chooser.entersFolder (Path.join here name) = true
      · simp [h, ih, Chooser.takes, ofEntry, ofFolder]
      · simp [h, ih, Chooser.takes]

/-- What is listed in a folder, with the names, in the order of the names. -/
def picked (chooser : Chooser) (here : String) (entries : List (String × Entry)) :
    List (String × Survey) :=
  (ofEntries chooser here entries).mergeSort fun a b => decide (a.1 ≤ b.1)

theorem ofFolder_eq (chooser : Chooser) (here : String) (entries : List (String × Entry)) :
    ofFolder chooser here entries = .folder here ((picked chooser here entries).map (·.2)) := rfl

theorem mem_picked : (name, s) ∈ picked chooser here entries ↔
    ∃ e, (name, e) ∈ entries ∧ chooser.takes (Path.join here name) e = true ∧
      s = ofEntry chooser (Path.join here name) e := by
  unfold picked
  rw [List.mem_mergeSort, ofEntries_eq]
  simp only [List.mem_map, List.mem_filter, Prod.exists, Prod.mk.injEq]
  constructor
  · rintro ⟨n, e, ⟨hmem, htakes⟩, rfl, rfl⟩
    exact ⟨e, hmem, htakes, rfl⟩
  · rintro ⟨e, hmem, htakes, rfl⟩
    exact ⟨name, e, ⟨hmem, htakes⟩, rfl, rfl⟩

/-- Sorting leaves the names in order. -/
theorem pairwise_mergeSort_names (items : List (String × Survey)) :
    (items.mergeSort fun a b => decide (a.1 ≤ b.1)).Pairwise fun a b => a.1 ≤ b.1 := by
  have htrans : ∀ a b c : String × Survey,
      decide (a.1 ≤ b.1) = true → decide (b.1 ≤ c.1) = true → decide (a.1 ≤ c.1) = true := by
    intro a b c hab hbc
    exact decide_eq_true (String.le_trans (of_decide_eq_true hab) (of_decide_eq_true hbc))
  have htotal : ∀ a b : String × Survey,
      (decide (a.1 ≤ b.1) || decide (b.1 ≤ a.1)) = true := by
    intro a b
    simpa using String.le_total a.1 b.1
  exact (List.pairwise_mergeSort htrans htotal _).imp of_decide_eq_true

/-- The names come in ascending order, and none comes twice when none does in the folder. -/
theorem pairwise_picked (h : (entries.map (·.1)).Nodup) :
    (picked chooser here entries).Pairwise fun a b => a.1 < b.1 := by
  -- sorting and selecting leave no name twice
  have hnodup : ((picked chooser here entries).map (·.1)).Nodup := by
    have hperm : ((picked chooser here entries).map (·.1)).Perm
        ((ofEntries chooser here entries).map (·.1)) := (List.mergeSort_perm _ _).map _
    rw [hperm.nodup_iff, ofEntries_eq, List.map_map]
    exact h.sublist ((List.filter_sublist).map _)
  rw [List.Nodup, List.pairwise_map] at hnodup
  refine ((pairwise_mergeSort_names _).and hnodup).imp ?_
  rintro a b ⟨hab, hne⟩
  exact Std.lt_of_le_of_ne hab hne

/-- **What sorting gives** is the arrangement in which the names ascend. -/
theorem sorted_eq_of_perm {items ascending : List (String × Survey)} (hperm : items.Perm ascending)
    (hascending : ascending.Pairwise fun a b => a.1 < b.1) :
    sorted items = ascending.map (·.2) := by
  have hnodup : (ascending.map (·.1)).Nodup := by
    rw [List.Nodup, List.pairwise_map]
    exact hascending.imp fun h => Std.ne_of_lt h
  have hsorted : (items.mergeSort fun a b => decide (a.1 ≤ b.1)).Perm ascending :=
    (List.mergeSort_perm _ _).trans hperm
  unfold sorted
  refine congrArg _ (hsorted.eq_of_pairwise ?_ (pairwise_mergeSort_names items)
    (hascending.imp Std.le_of_lt))
  intro a b ha hb hab hba
  exact List.inj_on_of_nodup_map hnodup (hsorted.subset ha) hb (String.le_antisymm hab hba)

/-! ## All levels -/

/-- What is listed for one file or folder: its path, and the paths of what is listed in it. -/
structure Mark where
  /-- It is listed as a file. -/
  isFile : Bool
  /-- Its path. -/
  path : String
  /-- The paths of what is listed in a folder, in their order. -/
  inside : List String
  deriving DecidableEq, Repr

mutual

/-- What a survey lists, in pre-order. -/
def outline : Survey → List Mark
  | .file path => [⟨true, path, []⟩]
  | .folder path items => ⟨false, path, items.map Survey.path⟩ :: outlineOf items

/-- What several surveys list. -/
def outlineOf : List Survey → List Mark
  | [] => []
  | s :: rest => outline s ++ outlineOf rest

end

theorem outlineOf_eq (items : List Survey) : outlineOf items = items.flatMap outline := by
  induction items with
  | nil => rfl
  | cons s rest ih => rw [outlineOf, ih, List.flatMap_cons]

mutual

/-- The files of a survey are those of its outline. -/
theorem files_eq (s : Survey) : s.files = (s.outline.filter (·.isFile)).map (·.path) := by
  cases s with
  | file path => rfl
  | folder path items =>
    rw [files, filesOf_eq items, outline, List.filter_cons_of_neg Bool.false_ne_true]

theorem filesOf_eq (items : List Survey) :
    filesOf items = ((outlineOf items).filter (·.isFile)).map (·.path) := by
  cases items with
  | nil => rfl
  | cons s rest =>
    rw [filesOf, files_eq s, filesOf_eq rest, outlineOf, List.filter_append, List.map_append]

end

/-- A folder lists itself and all that is listed for the entries that are taken. -/
theorem mem_outline_folder {m : Mark} :
    m ∈ (ofEntry chooser here (.folder entries)).outline ↔
      m = ⟨false, here, (picked chooser here entries).map (·.2.path)⟩ ∨
      ∃ name e, (name, e) ∈ entries ∧ chooser.takes (Path.join here name) e = true ∧
        m ∈ (ofEntry chooser (Path.join here name) e).outline := by
  rw [ofEntry, ofFolder_eq, outline, outlineOf_eq, List.mem_cons, List.mem_flatMap, List.map_map]
  refine or_congr Iff.rfl ?_
  constructor
  · rintro ⟨s, hs, hm⟩
    obtain ⟨⟨name, _⟩, hpicked, rfl⟩ := List.mem_map.1 hs
    obtain ⟨e, hmem, htakes, rfl⟩ := mem_picked.1 hpicked
    exact ⟨name, e, hmem, htakes, hm⟩
  · rintro ⟨name, e, hmem, htakes, hm⟩
    exact ⟨_, List.mem_map.2 ⟨_, mem_picked.2 ⟨e, hmem, htakes, rfl⟩, rfl⟩, hm⟩

/-! ## What is selected -/

/-- An entry is selected, seen from the entry at the path `here`, when it is taken and every folder
    on the way to it is entered. The entry at `here` itself is selected in any case. -/
inductive Selected (chooser : Chooser) : String → Entry → String → Entry → Prop
  | self (here : String) (e : Entry) : Selected chooser here e here e
  | inside {here name p : String} {entries : List (String × Entry)} {e x : Entry}
      (hmem : (name, e) ∈ entries) (htakes : chooser.takes (Path.join here name) e = true)
      (hinside : Selected chooser (Path.join here name) e p x) :
      Selected chooser here (.folder entries) p x

/-- **What a survey lists** is what is selected, files as files and folders as folders. -/
theorem mem_outline_iff {isFile : Bool} :
    (∃ m ∈ (ofEntry chooser here e).outline, m.isFile = isFile ∧ m.path = p) ↔
      ∃ x, Selected chooser here e p x ∧ x.isFile = isFile := by
  -- on the entry: a folder lists itself and what its entries list
  induction e using Entry.induction generalizing here with
  | hfile content =>
    constructor
    · rintro ⟨m, hm, rfl, rfl⟩
      obtain rfl := List.mem_singleton.1 hm
      exact ⟨_, .self here _, rfl⟩
    · rintro ⟨x, hx, rfl⟩
      cases hx
      exact ⟨_, List.mem_singleton_self _, rfl, rfl⟩
  | hfolder entries ih =>
    constructor
    · rintro ⟨m, hm, rfl, rfl⟩
      rcases mem_outline_folder.1 hm with rfl | ⟨name, e, hmem, htakes, hm⟩
      · exact ⟨_, .self here _, rfl⟩
      · obtain ⟨x, hx, hfile⟩ := (ih name e hmem).1 ⟨m, hm, rfl, rfl⟩
        exact ⟨x, .inside hmem htakes hx, hfile⟩
    · rintro ⟨x, hx, rfl⟩
      cases hx with
      | self => exact ⟨_, mem_outline_folder.2 (.inl rfl), rfl, rfl⟩
      | @inside _ name _ _ e _ hmem htakes hinside =>
        obtain ⟨m, hm, hfile, hp⟩ := (ih name e hmem).2 ⟨x, hinside, rfl⟩
        exact ⟨m, mem_outline_folder.2 (.inr ⟨name, e, hmem, htakes, hm⟩), hfile, hp⟩

/-! ## Paths and their order -/

/-- What is listed for an entry is under its name. -/
theorem under_of_mem_outline {m : Mark} (hname : Path.isName name = true)
    (he : e.wellNamed = true) (hm : m ∈ (ofEntry chooser (Path.join here name) e).outline) :
    Path.Under here name m.path := by
  induction e using Entry.induction generalizing here name with
  | hfile content =>
    obtain rfl := List.mem_singleton.1 hm
    exact Path.under_join hname
  | hfolder entries ih =>
    rcases mem_outline_folder.1 hm with rfl | ⟨inner, x, hmem, -, hm⟩
    · exact Path.under_join hname
    · obtain ⟨hinner, hx⟩ := (Entry.wellNamed_folder_iff.1 he).2 inner x hmem
      exact (ih inner x hmem hinner hx hm).of_join hname

/-- The same for what is picked: its paths are under its name. -/
theorem under_of_mem_picked (hwell : (Entry.folder entries).wellNamed = true)
    (hpicked : (name, s) ∈ picked chooser here entries) (hp : p ∈ s.outline.map (·.path)) :
    Path.isName name = true ∧ Path.Under here name p := by
  obtain ⟨e, hmem, -, rfl⟩ := mem_picked.1 hpicked
  obtain ⟨m, hm, rfl⟩ := List.mem_map.1 hp
  obtain ⟨hname, he⟩ := (Entry.wellNamed_folder_iff.1 hwell).2 name e hmem
  exact ⟨hname, under_of_mem_outline hname he hm⟩

/-- **No path is listed twice.** -/
theorem nodup_paths (he : e.wellNamed = true) :
    ((ofEntry chooser here e).outline.map (·.path)).Nodup := by
  -- on the entry: paths under one name are distinct by induction
  induction e using Entry.induction generalizing here with
  | hfile content => exact List.nodup_singleton _
  | hfolder entries ih =>
    obtain ⟨hnames, hproper⟩ := Entry.wellNamed_folder_iff.1 he
    rw [ofEntry, ofFolder_eq, outline, outlineOf_eq, List.map_cons, List.nodup_cons,
      List.map_flatMap, List.flatMap_map, List.nodup_flatMap]
    refine ⟨?_, ?_, ?_⟩
    · -- the folder is under none of its names
      intro hself
      obtain ⟨⟨name, s⟩, hpicked, hself⟩ := List.mem_flatMap.1 hself
      obtain ⟨hname, hunder⟩ := under_of_mem_picked he hpicked hself
      exact Path.not_under_self hname hunder
    · rintro ⟨name, s⟩ hpicked
      obtain ⟨e, hmem, -, rfl⟩ := mem_picked.1 hpicked
      exact ih name e hmem (hproper name e hmem).2
    · -- what is under one name is under no other
      refine (pairwise_picked hnames).imp_of_mem ?_
      rintro ⟨name, s⟩ ⟨other, u⟩ hpicked hothers hlt p hp hp'
      obtain ⟨hname, hunder⟩ := under_of_mem_picked he hpicked hp
      obtain ⟨hother, hunder'⟩ := under_of_mem_picked he hothers hp'
      obtain rfl := Path.name_eq_of_under hname hother hunder hunder'
      exact Std.lt_irrefl hlt

/-- **What is listed in a folder** comes in ascending order of the names. -/
theorem ascending_inside {m : Mark} (he : e.wellNamed = true)
    (hm : m ∈ (ofEntry chooser here e).outline) (hfolder : m.isFile = false) :
    ∃ names : List String, (∀ name ∈ names, Path.isName name = true) ∧
      names.Pairwise (· < ·) ∧ m.inside = names.map (Path.join m.path) := by
  induction e using Entry.induction generalizing here with
  | hfile content =>
    obtain rfl := List.mem_singleton.1 hm
    cases hfolder
  | hfolder entries ih =>
    obtain ⟨hnames, hproper⟩ := Entry.wellNamed_folder_iff.1 he
    rcases mem_outline_folder.1 hm with rfl | ⟨name, x, hmem, -, hm⟩
    · -- the folder itself, whose entries are picked in the order of their names
      refine ⟨(picked chooser here entries).map (·.1), ?_, ?_, ?_⟩
      · intro name hname
        obtain ⟨⟨_, s⟩, hpicked, rfl⟩ := List.mem_map.1 hname
        obtain ⟨x, hmem, -⟩ := mem_picked.1 hpicked
        exact (hproper _ x hmem).1
      · exact List.pairwise_map.2 (pairwise_picked hnames)
      · rw [List.map_map]
        refine List.map_congr_left ?_
        rintro ⟨name, s⟩ hpicked
        obtain ⟨x, -, -, rfl⟩ := mem_picked.1 hpicked
        exact path_ofEntry chooser _ x
    · exact ih name x hmem (hproper name x hmem).2 hm

end Survey

end SourceCensus
