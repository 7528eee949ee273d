import SourceCensus.Json.Value
import SourceCensus.Proofs.Named

/-! # Members of objects

    An object has every key once: setting a member (`keys_set`), and so setting several
    (`nodup_keys_ofList`), adds no key a second time. Members that have every key once already
    stay as they are (`ofList_of_nodup`).
-/

namespace SourceCensus.Json.Members

variable {ms others : Members} {key other : String} {v : Value} {p : String → Bool}

/-- The keys, in the order of the members. -/
def keys (ms : Members) : List String := ms.map (·.1)

@[simp] theorem keys_cons (m : String × Value) (rest : Members) :
    keys (m :: rest) = m.1 :: keys rest := rfl

@[simp] theorem keys_append (ms others : Members) : keys (ms ++ others) = keys ms ++ keys others :=
  List.map_append

/-! ## Looking up -/

theorem get?_append (ms others : Members) (key : String) :
    get? (ms ++ others) key = (get? ms key).or (get? others key) :=
  List.lookup_append

theorem get?_eq_none (h : key ∉ keys ms) : get? ms key = none := by
  unfold get?
  rw [List.lookup_eq_none_iff]
  intro m hm
  rw [bne_iff_ne]
  rintro rfl
  exact h (List.mem_map_of_mem hm)

/-- Where every key is there once, a member is found under its key. -/
theorem get?_of_mem (h : (keys ms).Nodup) (hmem : (key, v) ∈ ms) : get? ms key = some v :=
  Named.lookup_of_mem h hmem

/-- Where every key is there once, the members are what is found under their keys. -/
theorem mem_iff_get? (h : (keys ms).Nodup) : (key, v) ∈ ms ↔ get? ms key = some v :=
  ⟨get?_of_mem h, Named.mem_of_lookup⟩

/-- A selection by keys has the same members under the keys that it takes. -/
theorem get?_filter (h : p key = true) (ms : Members) :
    get? (ms.filter fun m => p m.1) key = get? ms key := by
  unfold get?
  induction ms with
  | nil => rfl
  | cons m rest ih =>
    rw [List.filter_cons, List.lookup_cons]
    -- a member under the key is taken, and one under another key does not matter
    by_cases heq : key = m.1
    · rw [← heq, if_pos h, List.lookup_cons]
      simp [heq]
    · have hne : (key == m.1) = false := by simpa using heq
      rw [hne]
      split
      · rw [List.lookup_cons, hne]
        exact ih
      · exact ih

/-! ## Setting -/

/-- Setting a member adds its key at the end, unless it is there. -/
theorem keys_set (ms : Members) (key : String) (v : Value) :
    keys (set ms key v) = if key ∈ keys ms then keys ms else keys ms ++ [key] := by
  induction ms with
  | nil => rfl
  | cons m rest ih =>
    rw [set]
    by_cases heq : m.1 = key
    · rw [if_pos heq]
      simp [heq]
    · rw [if_neg heq, keys_cons, keys_cons, ih]
      have hne : key ≠ m.1 := fun h => heq h.symm
      simp only [List.mem_cons, hne, false_or]
      split <;> rfl

theorem nodup_keys_set (h : (keys ms).Nodup) (key : String) (v : Value) :
    (keys (set ms key v)).Nodup := by
  rw [keys_set]
  split
  · exact h
  · rename_i hnew
    exact List.Nodup.append h (by simp) (by simpa using hnew)

/-- A member with a new key is added at the end. -/
theorem set_of_not_mem (h : key ∉ keys ms) (v : Value) : set ms key v = ms ++ [(key, v)] := by
  induction ms with
  | nil => rfl
  | cons m rest ih =>
    rw [keys_cons, List.mem_cons, not_or] at h
    rw [set, if_neg fun heq => h.1 heq.symm, ih h.2]
    rfl

theorem set_eq_put (ms : Members) (key : String) (v : Value) :
    set ms key v = Named.put key v ms := by
  induction ms with
  | nil => rfl
  | cons m rest ih => rw [set, Named.put, ih]

theorem get?_set (ms : Members) (key other : String) (v : Value) :
    get? (set ms key v) other = if other = key then some v else get? ms other := by
  rw [set_eq_put]
  exact Named.lookup_put key other v ms

/-! ## Objects -/

theorem nodup_keys_update (h : (keys ms).Nodup) (others : Members) :
    (keys (update ms others)).Nodup := by
  unfold update
  induction others generalizing ms with
  | nil => exact h
  | cons m rest ih => exact ih (nodup_keys_set h m.1 m.2)

/-- **An object has every key once.** -/
theorem nodup_keys_ofList (ms : Members) : (keys (ofList ms)).Nodup := by
  have hnil : (keys []).Nodup := List.nodup_nil
  exact nodup_keys_update hnil ms

/-- Members with new keys are added at the end. -/
theorem update_of_nodup (h : (keys (ms ++ others)).Nodup) : update ms others = ms ++ others := by
  unfold update
  induction others generalizing ms with
  | nil => rw [List.foldl_nil, List.append_nil]
  | cons m rest ih =>
    rw [List.append_cons] at h ⊢
    -- the key is none of those before it, so the member goes to the end
    have hnew : m.1 ∉ keys ms := by
      rw [keys_append, keys_append] at h
      have hdisjoint := (List.nodup_append.1 (List.nodup_append.1 h).1).2.2
      intro hmem
      exact hdisjoint m.1 hmem m.1 (by simp) rfl
    rw [List.foldl_cons, set_of_not_mem hnew]
    exact ih h

/-- **The members that are set** stand over those that were there before. -/
theorem get?_update (h : (keys others).Nodup) (ms : Members) (key : String) :
    get? (update ms others) key = (get? others key).or (get? ms key) := by
  unfold update
  induction others generalizing ms with
  | nil => rfl
  | cons m rest ih =>
    obtain ⟨k, w⟩ := m
    rw [keys_cons, List.nodup_cons] at h
    rw [List.foldl_cons, ih h.2, get?_set]
    by_cases heq : key = k
    · -- the members after this one leave its key alone
      have hrest : get? rest key = none := get?_eq_none (heq ▸ h.1)
      have hfirst : get? ((k, w) :: rest) key = some w := heq ▸ List.lookup_cons_self
      rw [if_pos heq, hrest, hfirst, Option.none_or, Option.some_or]
    · have hfirst : get? ((k, w) :: rest) key = get? rest key := by
        unfold get?
        rw [List.lookup_cons, beq_eq_false_iff_ne.2 heq]
      rw [if_neg heq, hfirst]

/-- **Members with all keys take the place of those before,** whatever the order is. -/
theorem update_perm (hms : (keys ms).Nodup) (h : (keys others).Nodup)
    (hall : ∀ key ∈ keys ms, key ∈ keys others) : (update ms others).Perm others := by
  have hupdate := nodup_keys_update hms others
  refine (List.perm_ext_iff_of_nodup hupdate.of_map h.of_map).2 ?_
  intro m
  obtain ⟨key, v⟩ := m
  rw [mem_iff_get? hupdate, mem_iff_get? h, get?_update h]
  cases hkey : get? others key with
  | some w => rw [Option.some_or]
  | none =>
    have hnone : get? ms key = none := by
      apply get?_eq_none
      intro hmem
      obtain ⟨m, hm, rfl⟩ := List.mem_map.1 (hall key hmem)
      rw [get?_of_mem h hm] at hkey
      cases hkey
    rw [hnone, Option.none_or]

/-- **Members that have every key once are an object already.** -/
theorem ofList_of_nodup (h : (keys ms).Nodup) : ofList ms = ms :=
  update_of_nodup h

end SourceCensus.Json.Members
