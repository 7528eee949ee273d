import SourceCensus.Proofs.Stats.Merging

/-! # Statistics of tokens

    Grouping keeps every item, in its order, under its key (`getD_lookup_groupBy`). So the entry of
    a category is made from the tokens of that category (`aggregate_eq`) and occurs as often as they
    do (`occurrencesAt_of_aggregate`).

    An entry can only fail when a number has no double. Where the lines of the tokens and their
    number stay below two to the power of 1000 it succeeds (`aggregate_succeeds`): their mean is
    then below that bound as well.
-/

namespace SourceCensus

/-! ## Groups -/

section Groups

variable {κ α : Type} [DecidableEq κ]

/-- The items in the group of a key. -/
def groupOf (groups : List (κ × List α)) (k : κ) : List α := (groups.lookup k).getD []

theorem groupOf_cons (j : κ) (items : List α) (groups : List (κ × List α)) (k : κ) :
    groupOf ((j, items) :: groups) k = if k = j then items else groupOf groups k := by
  unfold groupOf
  rw [List.lookup_cons]
  by_cases h : k = j
  · simp [h]
  · have hne : (k == j) = false := by simpa using h
    rw [hne, if_neg h]

/-- An item is added to the group of its key and to no other. -/
theorem groupOf_addToGroup (key : κ) (item : α) (groups : List (κ × List α)) (k : κ) :
    groupOf (addToGroup key item groups) k =
      groupOf groups k ++ if k = key then [item] else [] := by
  induction groups with
  | nil => rw [addToGroup, groupOf_cons]; rfl
  | cons group groups ih =>
    obtain ⟨j, items⟩ := group
    rw [addToGroup]
    by_cases hj : j = key
    · subst hj
      rw [if_pos (beq_self_eq_true j), groupOf_cons, groupOf_cons]
      by_cases hk : k = j <;> simp [hk]
    · rw [if_neg (by simpa using hj), groupOf_cons, groupOf_cons, ih]
      by_cases hk : k = j
      · subst hk
        simp [hj]
      · simp [hk]

/-- **Grouping loses nothing.** The group of a key has the items with that key in their order. -/
theorem groupOf_groupBy (key : α → κ) (items : List α) (k : κ) :
    groupOf (groupBy key items) k = items.filter fun item => key item == k := by
  -- whatever groups there are already, an item goes to the end of its group
  have hfold : ∀ groups : List (κ × List α),
      groupOf (items.foldl (fun groups item => addToGroup (key item) item groups) groups) k =
        groupOf groups k ++ items.filter fun item => key item == k := by
    induction items with
    | nil => simp
    | cons item items ih =>
      intro groups
      rw [List.foldl_cons, ih, groupOf_addToGroup, List.filter_cons, List.append_assoc]
      by_cases h : key item = k
      · simp [h]
      · simp [h, Ne.symm h]
  exact hfold []

end Groups

/-! ## Entries -/

/-- **The entry of a category** is made from its tokens. -/
theorem aggregate_eq (tokens : List Token) : aggregate tokens =
    Category.all.mapM fun c => statsOf (tokens.filter fun tok => tok.category == c) := by
  have hgroup : ∀ c, ((groupBy Token.category tokens).lookup c).getD [] =
      tokens.filter fun tok => tok.category == c :=
    groupOf_groupBy Token.category tokens
  unfold aggregate
  simp only [hgroup]

theorem occurrences_of_statsOf {tokens : List Token} {entry : CategoryStats}
    (h : statsOf tokens = .ok entry) : entry.occurrences = tokens.length := by
  obtain ⟨dispersion, -, h⟩ := bind_eq_ok h
  cases h
  rfl

/-- **Occurrences are counted:** a category occurs as often as its tokens. -/
theorem occurrencesAt_of_aggregate {tokens : List Token} {stats : StatsVector}
    (h : aggregate tokens = .ok stats) (c : Category) :
    occurrencesAt c.ordinal stats = tokens.countP fun tok => tok.category == c := by
  rw [aggregate_eq] at h
  obtain ⟨entry, hget, hentry⟩ := getElem?_of_mapM h c
  rw [occurrencesAt, hget, List.countP_eq_length_filter, ← occurrences_of_statsOf hentry]
  rfl

/-! ## When an entry succeeds -/

/-- Integers are summed exactly. -/
theorem sum_whole (ns : List Int) :
    Sample.sum (ns.map .whole) = .ok (.whole (ns.foldr (· + ·) 0)) := by
  -- a sum that starts with an integer stays one
  have hfold : ∀ m : Int, (ns.map Sample.whole).foldlM Sample.add (.whole m) =
      .ok (.whole (m + ns.foldr (· + ·) 0)) := by
    induction ns with
    | nil => intro m; simp [pure, Except.pure]
    | cons n ns ih =>
      intro m
      rw [List.map_cons, List.foldlM_cons]
      show (ns.map Sample.whole).foldlM Sample.add (.whole (m + n)) = _
      rw [ih, List.foldr_cons, Int.add_assoc]
  rw [Sample.sum, hfold, Int.zero_add]

/-- Integers below a bound have a sum that is below as many times the bound. -/
theorem natAbs_sum_add_length_le {bound : Nat} {ns : List Int} (h : ∀ n ∈ ns, n.natAbs < bound) :
    (ns.foldr (· + ·) 0).natAbs + ns.length ≤ ns.length * bound := by
  induction ns with
  | nil => simp
  | cons n ns ih =>
    have hn := h n (by simp)
    have hns := ih fun m hm => h m (by simp [hm])
    rw [List.foldr_cons, List.length_cons, Nat.succ_mul]
    omega

/-- The mean of integers with doubles has a double. -/
theorem mean_succeeds {ns : List Int} (hne : ns ≠ [])
    (h : ∀ n ∈ ns, n.natAbs < Number.twoTo 1000) :
    ∃ x, Sample.mean (.whole (ns.foldr (· + ·) 0)) ns.length = .ok x := by
  have hlength := List.length_pos_iff.2 hne
  have hsum := natAbs_sum_add_length_le h
  have hlt : (ns.foldr (· + ·) 0).natAbs < ns.length * Number.twoTo 1000 := by omega
  obtain ⟨x, hx⟩ := Number.quotient?_of_lt hlt
  exact ⟨x, by simp only [Sample.mean, hx]⟩

theorem squaredDistance_succeeds (mean : Float) {n : Int} (h : n.natAbs < Number.twoTo 1000) :
    ∃ x, squaredDistance mean (.whole n) = .ok x := by
  obtain ⟨x, hx⟩ := toDouble_of_lt h
  exact ⟨(x - mean) * (x - mean), by rw [squaredDistance, Sample.double, hx]; rfl⟩

theorem standardDeviation_succeeds {ns : List Int} (h : ∀ n ∈ ns, n.natAbs < Number.twoTo 1000)
    (hlength : ns.length < Number.twoTo 1000) :
    ∃ x, standardDeviation (ns.map .whole) = .ok x := by
  unfold standardDeviation
  rw [List.length_map]
  by_cases hfew : ns.length < 2
  · exact ⟨0.0, by simp only [hfew, if_true]; rfl⟩
  · -- two values or more: mean, squared distances and number all have doubles
    have hne : ns ≠ [] := by
      rintro rfl
      exact hfew (by decide)
    obtain ⟨mean, hmean⟩ := mean_succeeds hne h
    have hsquares : ∀ v ∈ ns.map Sample.whole, ∃ x, squaredDistance mean v = .ok x := by
      intro v hv
      obtain ⟨n, hn, rfl⟩ := List.mem_map.1 hv
      exact squaredDistance_succeeds mean (h n hn)
    obtain ⟨squares, hsquares⟩ := mapM_succeeds hsquares
    have hcount : (ns.length : Int).natAbs < Number.twoTo 1000 := hlength
    obtain ⟨count, hcount⟩ := toDouble_of_lt hcount
    simp only [hfew, if_false]
    exact bind_succeeds (sum_whole ns) <| bind_succeeds hmean <| bind_succeeds hsquares <|
      bind_succeeds hcount ⟨_, rfl⟩

theorem statsOf_succeeds {tokens : List Token}
    (hlines : ∀ tok ∈ tokens, tok.line.natAbs < Number.twoTo 1000)
    (hlength : tokens.length < Number.twoTo 1000) : ∃ entry, statsOf tokens = .ok entry := by
  have hmembers : ∀ n ∈ tokens.map Token.line, n.natAbs < Number.twoTo 1000 := by
    intro n hn
    obtain ⟨tok, htok, rfl⟩ := List.mem_map.1 hn
    exact hlines tok htok
  obtain ⟨x, hx⟩ := standardDeviation_succeeds hmembers (by rwa [List.length_map])
  rw [List.map_map] at hx
  exact bind_succeeds hx ⟨_, rfl⟩

/-- **Statistics of tokens succeed** where the lines and the number of tokens have doubles. -/
theorem aggregate_succeeds {tokens : List Token}
    (hlines : ∀ tok ∈ tokens, tok.line.natAbs < Number.twoTo 1000)
    (hlength : tokens.length < Number.twoTo 1000) : ∃ stats, aggregate tokens = .ok stats := by
  rw [aggregate_eq]
  apply mapM_succeeds
  intro c _
  apply statsOf_succeeds
  · intro tok htok
    exact hlines tok (List.mem_filter.1 htok).1
  · exact Nat.lt_of_le_of_lt (List.length_filter_le _ tokens) hlength

end SourceCensus
