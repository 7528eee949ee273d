import Mathlib.Data.List.Lex
import SourceCensus.Proofs.Named
import SourceCensus.Proofs.Survey.Outline

/-! # The order of a survey

    A file is told from all others by the names that lead to it. It is selected when it and all
    folders on the way are taken (`SelectedAlong`, which looks at one way alone and not at the rest
    of the folder).

    A survey lists the selected files in the lexicographic order of these names: what is under one
    name comes before what is under a greater one (`exists_listing`). So one can speak of the first
    selected file with some property by the names alone, without the survey.
-/

namespace SourceCensus

/-- The path to which names lead from a folder. -/
def Path.along (here : String) (names : List String) : String := names.foldl Path.join here

namespace Survey

variable {chooser : Chooser} {here name : String} {entries : List (String × Entry)} {e : Entry}
  {names rest : List String}

/-- The names lead from the entry at the path `here` to a file that is selected: the file is taken,
    and so is every folder on the way. -/
structure SelectedAlong (chooser : Chooser) (here : String) (e : Entry) (names : List String) :
    Prop where
  /-- There is a file. -/
  isFile : ∃ content, e.get? names = some (.file content)
  /-- The file, and every folder that the names lead through, is taken. -/
  taken : ∀ above x, above ≠ [] → above <+: names → e.get? above = some x →
    chooser.takes (Path.along here above) x = true

/-- A file has no way to go but the empty one. -/
theorem selectedAlong_file (content : Text.Bytes) :
    SelectedAlong chooser here (.file content) names ↔ names = [] := by
  constructor
  · intro h
    obtain ⟨inner, hinner⟩ := h.isFile
    cases names with
    | nil => rfl
    | cons name rest => cases hinner
  · intro hnil
    subst hnil
    refine ⟨⟨content, rfl⟩, ?_⟩
    intro above x hne hprefix _
    exact absurd (List.prefix_nil.1 hprefix) hne

/-- What names reach in the entry with a name, they reach in the folder after that name. -/
theorem get?_folder_cons (h : entries.lookup name = some e) (above : List String) :
    (Entry.folder entries).get? (name :: above) = e.get? above := by
  show (entries.lookup name).bind (Entry.get? · above) = e.get? above
  rw [h, Option.bind_some]

/-- What is selected in a folder is selected in one of its entries, which is taken. -/
theorem selectedAlong_folder (hnodup : (entries.map (·.1)).Nodup) :
    SelectedAlong chooser here (.folder entries) names ↔
      ∃ name rest, names = name :: rest ∧ ∃ e, (name, e) ∈ entries ∧
        chooser.takes (Path.join here name) e = true ∧
        SelectedAlong chooser (Path.join here name) e rest := by
  constructor
  · intro h
    -- the first name leads to an entry, and what is selected along the others lies in it
    obtain ⟨content, hfile⟩ := h.isFile
    cases names with
    | nil => cases hfile
    | cons name rest =>
      obtain ⟨e, hlookup, hinside⟩ := Option.bind_eq_some_iff.1 hfile
      have hget := get?_folder_cons hlookup
      refine ⟨name, rest, rfl, e, Named.mem_of_lookup hlookup, ?_, ⟨content, hinside⟩, ?_⟩
      · exact h.taken [name] e (List.cons_ne_nil _ _)
          (List.cons_prefix_cons.2 ⟨rfl, List.nil_prefix⟩) (hget [])
      · intro above x _ hprefix hx
        exact h.taken (name :: above) x (List.cons_ne_nil _ _)
          (List.cons_prefix_cons.2 ⟨rfl, hprefix⟩) ((hget above).trans hx)
  · intro h
    obtain ⟨name, rest, rfl, e, hmem, htakes, hinside⟩ := h
    have hget := get?_folder_cons (Named.lookup_of_mem hnodup hmem)
    obtain ⟨content, hfile⟩ := hinside.isFile
    refine ⟨⟨content, (hget rest).trans hfile⟩, ?_⟩
    intro above x hne hprefix hx
    cases above with
    | nil => exact absurd rfl hne
    | cons first above =>
      obtain ⟨rfl, hbelow⟩ := List.cons_prefix_cons.1 hprefix
      rw [hget] at hx
      -- the first name leads to the entry, all others into it
      by_cases hnil : above = []
      · subst hnil
        obtain rfl := Option.some.inj hx
        exact htakes
      · exact hinside.taken above x hnil hbelow hx

/-- The names of the selected files, each with all names on the way, in the order in which a survey
    lists the files. -/
structure Listing (chooser : Chooser) (here : String) (e : Entry) (order : List (List String)) :
    Prop where
  /-- The names ascend. -/
  ascending : order.Pairwise (List.Lex (· < ·))
  /-- They are those of the selected files. -/
  complete : ∀ names, names ∈ order ↔ SelectedAlong chooser here e names
  /-- The survey lists the paths to which they lead. -/
  files_eq : (ofEntry chooser here e).files = order.map (Path.along here)

/-- The listings of items, one after the other and each under the name of its item, list the files
    of all items. -/
theorem exists_listing_of_items {Q : String → List String → Prop} (items : List (String × Survey))
    (hlt : items.Pairwise fun a b => a.1 < b.1)
    (h : ∀ name s, (name, s) ∈ items → ∃ order : List (List String),
      order.Pairwise (List.Lex (· < ·)) ∧ (∀ rest, rest ∈ order ↔ Q name rest) ∧
      s.files = order.map (Path.along (Path.join here name))) :
    ∃ order : List (List String), order.Pairwise (List.Lex (· < ·)) ∧
      (∀ names, names ∈ order ↔
        ∃ name rest s, names = name :: rest ∧ (name, s) ∈ items ∧ Q name rest) ∧
      filesOf (items.map (·.2)) = order.map (Path.along here) := by
  -- on the items: those of the first come before those of the others
  induction items with
  | nil => exact ⟨[], .nil, by simp, rfl⟩
  | cons item items ih =>
    obtain ⟨name, s⟩ := item
    obtain ⟨hfirst, hlt⟩ := List.pairwise_cons.1 hlt
    obtain ⟨inside, hinside, hmem, hfiles⟩ := h name s List.mem_cons_self
    obtain ⟨later, hlater, hmem', hfiles'⟩ :=
      ih hlt fun name s hitem => h name s (List.mem_cons_of_mem _ hitem)
    refine ⟨inside.map (name :: ·) ++ later, ?_, ?_, ?_⟩
    · rw [List.pairwise_append]
      refine ⟨List.pairwise_map.2 (hinside.imp fun hlex => .cons hlex), hlater, ?_⟩
      -- all names to come are greater than the first one
      intro a ha b hb
      obtain ⟨rest, -, rfl⟩ := List.mem_map.1 ha
      obtain ⟨other, rest', s', rfl, hitem, -⟩ := (hmem' b).1 hb
      exact .rel (hfirst (other, s') hitem)
    · intro names
      rw [List.mem_append, List.mem_map, hmem']
      constructor
      · intro hnames
        rcases hnames with ⟨rest, hrest, rfl⟩ | ⟨other, rest, s', rfl, hitem, hq⟩
        · exact ⟨name, rest, s, rfl, List.mem_cons_self, (hmem rest).1 hrest⟩
        · exact ⟨other, rest, s', rfl, List.mem_cons_of_mem _ hitem, hq⟩
      · intro hnames
        obtain ⟨other, rest, s', rfl, hitem, hq⟩ := hnames
        rcases List.mem_cons.1 hitem with heq | hitem
        · obtain ⟨rfl, rfl⟩ := Prod.mk.inj heq
          exact .inl ⟨rest, (hmem rest).2 hq, rfl⟩
        · exact .inr ⟨other, rest, s', rfl, hitem, hq⟩
    · -- the files are told in the same order
      rw [List.map_cons, filesOf, hfiles, hfiles', List.map_append, List.map_map]
      rfl

/-- **A survey lists the selected files** in the lexicographic order of the names that lead to
    them. -/
theorem exists_listing (he : e.wellNamed = true) : ∃ order, Listing chooser here e order := by
  induction e using Entry.induction generalizing here with
  | hfile content =>
    refine ⟨[[]], List.pairwise_singleton _ _, ?_, rfl⟩
    intro names
    rw [List.mem_singleton, selectedAlong_file]
  | hfolder entries ih =>
    obtain ⟨hnodup, hproper⟩ := Entry.wellNamed_folder_iff.1 he
    -- what is picked under a name is the survey of the one entry with that name
    have hitems : ∀ name s, (name, s) ∈ picked chooser here entries →
        ∃ order : List (List String), order.Pairwise (List.Lex (· < ·)) ∧
          (∀ rest, rest ∈ order ↔ ∃ e, (name, e) ∈ entries ∧
            chooser.takes (Path.join here name) e = true ∧
            SelectedAlong chooser (Path.join here name) e rest) ∧
          s.files = order.map (Path.along (Path.join here name)) := by
      intro name s hpicked
      obtain ⟨e, hmem, htakes, rfl⟩ := mem_picked.1 hpicked
      obtain ⟨order, hascending, hcomplete, hfiles⟩ := ih name e hmem (hproper name e hmem).2
      refine ⟨order, hascending, ?_, hfiles⟩
      intro rest
      rw [hcomplete]
      constructor
      · intro hinside
        exact ⟨e, hmem, htakes, hinside⟩
      · intro h
        obtain ⟨other, hother, -, hinside⟩ := h
        have hsame : some e = some other :=
          (Named.lookup_of_mem hnodup hmem).symm.trans (Named.lookup_of_mem hnodup hother)
        obtain rfl := Option.some.inj hsame
        exact hinside
    obtain ⟨order, hascending, hmem, hfiles⟩ :=
      exists_listing_of_items _ (pairwise_picked hnodup) hitems
    refine ⟨order, hascending, ?_, ?_⟩
    · -- what is picked is what is taken, so both say the same
      intro names
      rw [hmem, selectedAlong_folder hnodup]
      constructor
      · intro h
        obtain ⟨name, rest, s, hnames, -, hselected⟩ := h
        exact ⟨name, rest, hnames, hselected⟩
      · intro h
        obtain ⟨name, rest, hnames, e, he, htakes, hinside⟩ := h
        exact ⟨name, rest, _, hnames, mem_picked.2 ⟨e, he, htakes, rfl⟩, e, he, htakes, hinside⟩
    · rw [ofEntry, ofFolder_eq, files, hfiles]

end Survey

end SourceCensus
