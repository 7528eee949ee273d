import SourceCensus.Path

/-! # Paths below a path

    A name can be put behind a path when it is a proper name: not empty and without a slash. What
    stands before it is the `stem` of the path, which ends with a slash unless it is empty
    (`toList_join`).

    So the path of what is `Under` a name tells the name (`name_eq_of_under`): what is under one
    name of a folder is under no other, and the folder itself is under none of its names
    (`not_under_self`).

    The parts of such a path are those of the path before it and the name (`parts_join`).
-/

namespace SourceCensus.Path

variable {path p q name other : String}

/-- A name that an entry of a folder can have. -/
def isName (name : String) : Bool := !name.isEmpty && name.toList.all (· ≠ '/')

theorem isName_iff : isName name = true ↔ name.toList ≠ [] ∧ '/' ∉ name.toList := by
  unfold isName
  rw [Bool.and_eq_true, Bool.not_eq_true', Bool.eq_false_iff, List.all_eq_true]
  refine and_congr ?_ ?_
  · simp
  · constructor
    · intro h hmem
      simpa using h '/' hmem
    · intro h c hc
      have hne : c ≠ '/' := fun heq => h (heq ▸ hc)
      simpa using hne

/-- What stands before the names of what is in a folder. -/
def stem (path : String) : List Char :=
  if path.isEmpty || path.endsWith "/" then path.toList else path.toList ++ ['/']

theorem endsWith_slash_iff : p.endsWith "/" = true ↔ ['/'] <:+ p.toList := by
  unfold String.endsWith
  rw [String.Slice.endsWith_string_iff, String.copy_toSlice]
  rfl

/-- **A name is put behind the stem.** -/
theorem toList_join (hname : isName name = true) :
    (join path name).toList = stem path ++ name.toList := by
  obtain ⟨hne, hslash⟩ := isName_iff.1 hname
  -- a name does not start with a slash, so it does not stand for itself
  have hrelative : ¬ name.startsWith "/" = true := by
    rw [String.startsWith_string_iff]
    rintro ⟨rest, hrest⟩
    exact hslash (by rw [← hrest]; simp)
  unfold join stem
  rw [if_neg hrelative]
  by_cases hend : (path.isEmpty || path.endsWith "/") = true
  · rw [if_pos hend, if_pos hend, String.toList_append]
  · rw [if_neg hend, if_neg hend, String.toList_append, String.toList_append]
    rfl

/-- Behind a name there is always a slash. -/
theorem stem_join (hname : isName name = true) :
    stem (join path name) = stem path ++ name.toList ++ ['/'] := by
  obtain ⟨hne, hslash⟩ := isName_iff.1 hname
  have hlist : (join path name).toList = stem path ++ name.toList := toList_join hname
  have hempty : (join path name).isEmpty = false := by
    rw [Bool.eq_false_iff, ne_eq, String.isEmpty_iff, ← String.toList_inj, hlist]
    simp [hne]
  have hend : (join path name).endsWith "/" = false := by
    rw [Bool.eq_false_iff, ne_eq, endsWith_slash_iff, hlist]
    -- the last character is one of the name
    intro hsuffix
    rw [List.singleton_suffix_iff_getLast?_eq_some, List.getLast?_append,
      Option.or_of_isSome (List.getLast?_isSome.2 hne)] at hsuffix
    exact hslash (List.mem_of_getLast? hsuffix)
  unfold stem
  rw [hempty, hend, Bool.or_false, if_neg Bool.false_ne_true]
  exact congrArg (· ++ ['/']) hlist

/-! ## What is under a name -/

/-- The path of the entry with a name, or of something in it. -/
def Under (path name q : String) : Prop :=
  ∃ tail, q.toList = stem path ++ name.toList ++ tail ∧ ∀ c ∈ tail.head?, c = '/'

theorem under_join (hname : isName name = true) : Under path name (join path name) :=
  ⟨[], by rw [toList_join hname, List.append_nil], fun c hc => by cases hc⟩

/-- What is in an entry of a folder is under the name of that entry. -/
theorem Under.of_join {inner : String} (hname : isName name = true)
    (h : Under (join path name) inner q) : Under path name q := by
  obtain ⟨tail, hq, -⟩ := h
  refine ⟨'/' :: (inner.toList ++ tail), ?_, ?_⟩
  · rw [hq, stem_join hname]
    simp
  · simp

/-- The name reads on up to the next slash. -/
theorem Under.name_eq (hname : isName name = true) (h : Under path name q) :
    name.toList = (q.toList.drop (stem path).length).takeWhile (· ≠ '/') := by
  obtain ⟨tail, hq, htail⟩ := h
  obtain ⟨-, hslash⟩ := isName_iff.1 hname
  have hall : ∀ c ∈ name.toList, decide (c ≠ '/') = true :=
    fun c hc => decide_eq_true fun heq => hslash (heq ▸ hc)
  rw [hq, List.append_assoc, List.drop_left, List.takeWhile_append_of_pos hall]
  cases tail with
  | nil => simp
  | cons c tail =>
    have hc : c = '/' := htail c rfl
    simp [hc]

/-- **What is under two names of a folder** has one name twice. -/
theorem name_eq_of_under (hname : isName name = true) (hother : isName other = true)
    (h : Under path name q) (ho : Under path other q) : name = other := by
  rw [← String.toList_inj, h.name_eq hname, ho.name_eq hother]

/-- A folder is under none of its own names. -/
theorem not_under_self (hname : isName name = true) : ¬ Under path name path := by
  rintro ⟨tail, hq, -⟩
  have hstem : path.toList.length ≤ (stem path).length := by
    unfold stem
    split <;> simp
  have hpos := List.length_pos_iff.2 (isName_iff.1 hname).1
  have hlength := congrArg List.length hq
  simp only [List.length_append] at hlength
  omega

/-! ## The parts of a path -/

theorem split_ne_nil (t : List Char) : split t ≠ [] := by
  cases t with
  | nil => exact List.cons_ne_nil _ _
  | cons c rest =>
    rw [split]
    by_cases hc : c = '/'
    · rw [if_pos hc]
      exact List.cons_ne_nil _ _
    · rw [if_neg hc]
      split <;> exact List.cons_ne_nil _ _

theorem split_append_slash (l m : List Char) : split (l ++ '/' :: m) = split l ++ split m := by
  induction l with
  | nil => simp [split]
  | cons c l ih =>
    rw [List.cons_append, split, split, ih]
    by_cases hc : c = '/'
    · rw [if_pos hc, if_pos hc, List.cons_append]
    · rw [if_neg hc, if_neg hc]
      -- the character belongs to the first part, which is one of `l`
      cases hfirst : split l with
      | nil => exact absurd hfirst (split_ne_nil l)
      | cons p ps => rfl

theorem split_of_not_mem {t : List Char} (h : '/' ∉ t) : split t = [t] := by
  induction t with
  | nil => rfl
  | cons c rest ih =>
    rw [List.mem_cons, not_or] at h
    rw [split, if_neg (Ne.symm h.1), ih h.2]

/-- **The parts of a path with a name behind it.** They are those of the path, where an empty part
    at its end makes room for the name. -/
theorem parts_join (hname : isName name = true) (hne : path ≠ "") :
    ∃ lead, parts (join path name) = lead ++ [name] ∧
      (parts path = lead ∨ parts path = lead ++ [""]) := by
  obtain ⟨-, hslash⟩ := isName_iff.1 hname
  have hempty : path.isEmpty = false := by
    rw [Bool.eq_false_iff, ne_eq, String.isEmpty_iff]
    exact hne
  unfold parts
  rw [toList_join hname, stem, hempty, Bool.false_or]
  by_cases hend : path.endsWith "/" = true
  · obtain ⟨l, hl⟩ := endsWith_slash_iff.1 hend
    refine ⟨(split l).map String.ofList, ?_, .inr ?_⟩
    · rw [if_pos hend, ← hl, List.append_assoc, List.singleton_append, split_append_slash,
        split_of_not_mem hslash, List.map_append, List.map_singleton, String.ofList_toList]
    · rw [← hl, split_append_slash, List.map_append]
      rfl
  · refine ⟨(split path.toList).map String.ofList, ?_, .inl rfl⟩
    rw [if_neg hend, List.append_assoc, List.singleton_append, split_append_slash,
      split_of_not_mem hslash, List.map_append, List.map_singleton, String.ofList_toList]

end SourceCensus.Path
