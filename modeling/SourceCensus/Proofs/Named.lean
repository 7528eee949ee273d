import Mathlib.Data.List.Nodup

/-! # Lists of things with names

    Members of an object, entries of a folder and groups of items are looked up by name, and the
    first thing with a name counts. Where no name is there twice, the things of a list are what is
    found under their names (`lookup_of_mem`). Putting a thing under a name changes what is found
    there, and nothing else (`lookup_put`).
-/

namespace SourceCensus.Named

section Lookup

variable {κ β : Type} [BEq κ] [LawfulBEq κ] {things : List (κ × β)} {name : κ} {x : β}

theorem mem_of_lookup (h : things.lookup name = some x) : (name, x) ∈ things := by
  obtain ⟨before, after, hsplit, -⟩ := List.lookup_eq_some_iff.1 h
  rw [hsplit]
  exact List.mem_append_right before List.mem_cons_self

theorem lookup_of_mem (h : (things.map (·.1)).Nodup) (hmem : (name, x) ∈ things) :
    things.lookup name = some x := by
  induction things with
  | nil => cases hmem
  | cons thing rest ih =>
    obtain ⟨other, y⟩ := thing
    rw [List.map_cons, List.nodup_cons] at h
    rw [List.lookup_cons]
    rcases List.mem_cons.1 hmem with heq | hrest
    · cases heq
      rw [beq_self_eq_true]
    · have hne : name ≠ other := by
        intro heq
        exact h.1 (heq ▸ List.mem_map_of_mem (f := fun thing => thing.1) hrest)
      rw [beq_eq_false_iff_ne.2 hne]
      exact ih h.2 hrest

end Lookup

variable {β : Type}

/-- The list with a thing put under a name: in place when the name is there, and at the end
    otherwise. -/
def put (name : String) (x : β) : List (String × β) → List (String × β)
  | [] => [(name, x)]
  | (n, y) :: rest => if n = name then (n, x) :: rest else (n, y) :: put name x rest

/-- **Putting a thing under a name** changes what is found there. -/
theorem lookup_put (name other : String) (x : β) (things : List (String × β)) :
    (put name x things).lookup other = if other = name then some x else things.lookup other := by
  induction things with
  | nil =>
    rw [put, List.lookup_cons]
    by_cases heq : other = name
    · rw [if_pos heq, beq_iff_eq.2 heq]
    · rw [if_neg heq, beq_eq_false_iff_ne.2 heq]
  | cons thing rest ih =>
    obtain ⟨n, y⟩ := thing
    rw [put]
    by_cases hn : n = name
    · rw [if_pos hn, List.lookup_cons, List.lookup_cons, hn]
      by_cases heq : other = name
      · rw [if_pos heq, beq_iff_eq.2 heq]
      · rw [if_neg heq, beq_eq_false_iff_ne.2 heq]
    · rw [if_neg hn, List.lookup_cons, List.lookup_cons, ih]
      by_cases heq : other = n
      · have hne : other ≠ name := fun hname => hn (heq.symm.trans hname)
        rw [if_neg hne, if_neg hne, beq_iff_eq.2 heq]
      · rw [beq_eq_false_iff_ne.2 heq]

end SourceCensus.Named
