import Mathlib.Algebra.BigOperators.Ring.Finset
import Mathlib.Data.List.Induction
import SourceCensus.Proofs.Named
import SourceCensus.Proofs.Stats.Aggregation

/-! # Tokens are divided among the categories

    Grouping divides items by key (`isGrouping_groupBy`). It is a fold, so everything is shown for
    one more item: an item is added to the group of its key, and a key that has no group yet gets
    one behind all others (`keys_addToGroup`, `perm_addToGroup`).

    An aggregate has an entry for each category, which is made from the tokens of that category and
    from nothing else. It fails only where the standard deviation of their lines does
    (`aggregate_eq_ok_iff`, `exists_lineDeviation_eq_error`). Every token is counted under one
    category, so the occurrences add up to the number of tokens (`allOccurrences_of_aggregate`).
-/

namespace SourceCensus

/-! ## Adding an item to its group -/

section Groups

variable {κ α : Type} [DecidableEq κ] {key : α → κ} {items : List α} {j k : κ}

/-- The keys of groups, in the order of the groups. -/
def keysOf (groups : List (κ × List α)) : List κ := groups.map Prod.fst

/-- All items of groups, one group after the other. -/
def itemsOf (groups : List (κ × List α)) : List α := groups.flatMap Prod.snd

/-- A key that has no group yet comes behind all others, and no other key comes. -/
theorem keys_addToGroup (k : κ) (item : α) (groups : List (κ × List α)) :
    keysOf (addToGroup k item groups) =
      if k ∈ keysOf groups then keysOf groups else keysOf groups ++ [k] := by
  -- on the groups: the first one is that of the key, or it stays and the key goes to the others
  induction groups with
  | nil => rfl
  | cons group groups ih =>
    obtain ⟨j, items⟩ := group
    rw [addToGroup]
    by_cases hj : j = k
    · subst hj
      rw [if_pos (beq_self_eq_true j)]
      exact (if_pos List.mem_cons_self).symm
    · rw [if_neg (by simpa using hj)]
      have hmem : k ∈ keysOf ((j, items) :: groups) ↔ k ∈ keysOf groups := by
        unfold keysOf
        rw [List.map_cons, List.mem_cons]
        exact or_iff_right (Ne.symm hj)
      have hcons : keysOf ((j, items) :: addToGroup k item groups) =
          j :: keysOf (addToGroup k item groups) := rfl
      rw [hcons, ih]
      by_cases hk : k ∈ keysOf groups
      · rw [if_pos hk, if_pos (hmem.2 hk)]
        rfl
      · rw [if_neg hk, if_neg (mt hmem.1 hk)]
        rfl

/-- No item is lost and none comes twice when one is added. -/
theorem perm_addToGroup (k : κ) (item : α) (groups : List (κ × List α)) :
    (itemsOf (addToGroup k item groups)).Perm (itemsOf groups ++ [item]) := by
  induction groups with
  | nil => exact .refl _
  | cons group groups ih =>
    obtain ⟨j, items⟩ := group
    rw [addToGroup]
    by_cases hj : j = k
    · rw [if_pos (by simpa using hj)]
      unfold itemsOf
      rw [List.flatMap_cons, List.flatMap_cons, List.append_assoc, List.append_assoc]
      exact List.perm_append_comm.append_left items
    · rw [if_neg (by simpa using hj)]
      unfold itemsOf at ih ⊢
      rw [List.flatMap_cons, List.flatMap_cons, List.append_assoc]
      exact ih.append_left items

/-! ## Grouping -/

/-- Grouping one more item adds it to the groups of those before it. -/
theorem groupBy_concat (key : α → κ) (items : List α) (item : α) :
    groupBy key (items ++ [item]) = addToGroup (key item) item (groupBy key items) := by
  unfold groupBy
  rw [List.foldl_append]
  rfl

/-- The keys of the groups are those of the items. -/
theorem mem_keys_groupBy : k ∈ keysOf (groupBy key items) ↔ k ∈ items.map key := by
  induction items using List.reverseRecOn with
  | nil => exact Iff.rfl
  | append_singleton items item ih =>
    rw [groupBy_concat, keys_addToGroup, List.map_append, List.mem_append, ← ih]
    by_cases hitem : key item ∈ keysOf (groupBy key items)
    · rw [if_pos hitem, List.map_singleton, List.mem_singleton]
      exact ⟨.inl, fun h => h.elim id fun heq => heq ▸ hitem⟩
    · rw [if_neg hitem, List.mem_append]
      rfl

/-- **Keys come in order of first appearance,** and so none comes twice. -/
theorem pairwise_keys_groupBy (key : α → κ) (items : List α) :
    (keysOf (groupBy key items)).Pairwise fun j k =>
      (items.map key).idxOf j < (items.map key).idxOf k := by
  induction items using List.reverseRecOn with
  | nil => exact .nil
  | append_singleton items item ih =>
    -- a key that has appeared keeps the place at which it did
    have hkeep : ∀ k ∈ keysOf (groupBy key items),
        ((items ++ [item]).map key).idxOf k = (items.map key).idxOf k := by
      intro k hk
      rw [List.map_append, List.idxOf_append_of_mem (mem_keys_groupBy.1 hk)]
    have hold : (keysOf (groupBy key items)).Pairwise fun j k =>
        ((items ++ [item]).map key).idxOf j < ((items ++ [item]).map key).idxOf k := by
      refine ih.imp_of_mem ?_
      intro j k hj hk hlt
      rwa [hkeep j hj, hkeep k hk]
    rw [groupBy_concat, keys_addToGroup]
    by_cases hitem : key item ∈ keysOf (groupBy key items)
    · -- a key that has a group keeps its place, and one that has none comes last
      rwa [if_pos hitem]
    · rw [if_neg hitem, List.pairwise_append]
      refine ⟨hold, List.pairwise_singleton _ _, ?_⟩
      intro j hj k hk
      rw [List.mem_singleton] at hk
      subst hk
      have hnew : key item ∉ items.map key := mt mem_keys_groupBy.2 hitem
      have hlt := List.idxOf_lt_length_of_mem (mem_keys_groupBy.1 hj)
      rw [hkeep j hj, List.map_append, List.idxOf_append_of_notMem hnew]
      omega

/-- No item is lost by grouping, and none is there twice. -/
theorem perm_groupBy (key : α → κ) (items : List α) :
    (itemsOf (groupBy key items)).Perm items := by
  induction items using List.reverseRecOn with
  | nil => exact .refl _
  | append_singleton items item ih =>
    rw [groupBy_concat]
    exact (perm_addToGroup _ item _).trans (ih.append_right [item])

/-- Groups divide items by key: there is a group for each key of an item and for no other, in the
    order in which the keys appear, and each has the items with its key in their order. -/
structure IsGrouping (key : α → κ) (items : List α) (groups : List (κ × List α)) : Prop where
  keys : ∀ k, k ∈ keysOf groups ↔ ∃ item ∈ items, key item = k
  firstAppearance : (keysOf groups).Pairwise fun j k =>
    (items.map key).idxOf j < (items.map key).idxOf k
  members : ∀ group ∈ groups, group.2 = items.filter fun item => key item = group.1
  perm : (itemsOf groups).Perm items

/-- **Grouping divides items by key.** -/
theorem isGrouping_groupBy (key : α → κ) (items : List α) :
    IsGrouping key items (groupBy key items) := by
  have hordered := pairwise_keys_groupBy key items
  refine ⟨?_, hordered, ?_, perm_groupBy key items⟩
  · intro k
    rw [mem_keys_groupBy, List.mem_map]
  · intro group hgroup
    obtain ⟨k, members⟩ := group
    -- no key comes twice, so what is looked up under the key is this group
    have hnodup : (keysOf (groupBy key items)).Nodup := by
      refine hordered.imp ?_
      rintro j k hlt rfl
      exact Nat.lt_irrefl _ hlt
    have hlookup : (groupBy key items).lookup k = some members := by
      apply Named.lookup_of_mem
      · exact hnodup
      · exact hgroup
    have hmembers := groupOf_groupBy key items k
    unfold groupOf at hmembers
    rw [hlookup, Option.getD_some] at hmembers
    exact hmembers

end Groups

/-! ## Entries -/

variable {tokens : List Token} {stats : StatsVector} {c : Category}

/-- The tokens that are counted under a category. -/
def countedUnder (c : Category) (tokens : List Token) : List Token :=
  tokens.filter fun tok => tok.kind.category == c

/-- The standard deviation of the lines of the tokens under a category, in the order of the
    tokens. -/
def lineDeviation (c : Category) (tokens : List Token) : Except StatsError Float :=
  standardDeviation ((countedUnder c tokens).map fun tok => .whole tok.line)

/-- Statistics that have an entry for each category, made from the tokens under it. -/
structure Summarizes (tokens : List Token) (stats : StatsVector) : Prop where
  length_eq : stats.length = 14
  entry : ∀ c, ∃ x, lineDeviation c tokens = .ok x ∧
    stats[c.ordinal]? = some { occurrences := (countedUnder c tokens).length, dispersion := x }

/-- **The entry of a category** fails or succeeds as the standard deviation under it does. -/
theorem aggregate_eq_mapM (tokens : List Token) : aggregate tokens =
    Category.all.mapM fun c => (lineDeviation c tokens).map fun x =>
      { occurrences := (countedUnder c tokens).length, dispersion := x } := by
  have hentry : ∀ ts : List Token, statsOf ts =
      (standardDeviation (ts.map fun tok => .whole tok.line)).map fun x =>
        { occurrences := ts.length, dispersion := x } := by
    intro ts
    unfold statsOf
    cases standardDeviation (ts.map fun tok => .whole tok.line) <;> rfl
  rw [aggregate_eq]
  exact congrArg (Category.all.mapM ·) (funext fun c => hentry (countedUnder c tokens))

theorem summarizes_of_aggregate (h : aggregate tokens = .ok stats) : Summarizes tokens stats := by
  rw [aggregate_eq_mapM] at h
  refine ⟨(forall₂_of_mapM h).length_eq.symm, ?_⟩
  intro c
  obtain ⟨entry, hget, hentry⟩ := getElem?_of_mapM h c
  obtain ⟨x, hx, rfl⟩ := map_eq_ok hentry
  exact ⟨x, hx, hget⟩

/-- The tokens leave no choice about their statistics. -/
theorem Summarizes.unique {stats' : StatsVector} (h : Summarizes tokens stats)
    (h' : Summarizes tokens stats') : stats = stats' := by
  apply List.ext_getElem?
  intro i
  by_cases hi : i < 14
  · obtain ⟨c, rfl⟩ := exists_ordinal_eq hi
    obtain ⟨x, hx, hget⟩ := h.entry c
    obtain ⟨x', hx', hget'⟩ := h'.entry c
    rw [hx, Except.ok.injEq] at hx'
    rw [hget, hget', hx']
  · rw [List.getElem?_eq_none (by rw [h.length_eq]; omega),
      List.getElem?_eq_none (by rw [h'.length_eq]; omega)]

/-- **When an aggregate is made:** where the lines under each category have a standard
    deviation. -/
theorem aggregate_succeeds_iff :
    (∃ stats, aggregate tokens = .ok stats) ↔ ∀ c, ∃ x, lineDeviation c tokens = .ok x := by
  constructor
  · intro h c
    obtain ⟨stats, hstats⟩ := h
    obtain ⟨x, hx, -⟩ := (summarizes_of_aggregate hstats).entry c
    exact ⟨x, hx⟩
  · intro h
    rw [aggregate_eq_mapM]
    apply mapM_succeeds
    intro c _
    obtain ⟨x, hx⟩ := h c
    rw [hx]
    exact ⟨_, rfl⟩

/-- **What an aggregate is.** -/
theorem aggregate_eq_ok_iff : aggregate tokens = .ok stats ↔ Summarizes tokens stats := by
  constructor
  · exact summarizes_of_aggregate
  · intro h
    have hdeviations : ∀ c, ∃ x, lineDeviation c tokens = .ok x := by
      intro c
      obtain ⟨x, hx, -⟩ := h.entry c
      exact ⟨x, hx⟩
    obtain ⟨stats', hstats'⟩ := aggregate_succeeds_iff.2 hdeviations
    rw [h.unique (summarizes_of_aggregate hstats'), hstats']

/-- An aggregate fails as the standard deviation under some category does. -/
theorem exists_lineDeviation_eq_error {e : StatsError} (h : aggregate tokens = .error e) :
    ∃ c, lineDeviation c tokens = .error e := by
  rw [aggregate_eq_mapM, mapM_eq_error_iff] at h
  obtain ⟨-, c, -, -, -, hc⟩ := h
  exact ⟨c, map_eq_error_iff.1 hc⟩

/-! ## All entries together -/

theorem length_countedUnder_cons (c : Category) (tok : Token) (tokens : List Token) :
    (countedUnder c (tok :: tokens)).length =
      (countedUnder c tokens).length + if tok.kind.category = c then 1 else 0 := by
  unfold countedUnder
  rw [List.filter_cons]
  by_cases h : tok.kind.category = c
  · rw [if_pos (beq_iff_eq.2 h), if_pos h, List.length_cons]
  · rw [if_neg (mt beq_iff_eq.1 h), if_neg h, Nat.add_zero]

/-- **Every token is counted under one category** and under no other. -/
theorem sum_length_countedUnder (tokens : List Token) :
    (Category.all.map fun c => (countedUnder c tokens).length).foldr (· + ·) 0 =
      tokens.length := by
  induction tokens with
  | nil => rfl
  | cons tok tokens ih =>
    have hone : (Category.all.map fun c => if tok.kind.category = c then 1 else 0).foldr
        (· + ·) 0 = 1 := by
      cases tok.kind.category <;> rfl
    simp only [length_countedUnder_cons, ← List.sum_eq_foldr] at ih hone ⊢
    rw [List.sum_map_add, ih, hone, List.length_cons]

theorem occurrences_of_aggregate (h : aggregate tokens = .ok stats) :
    (stats.map fun entry => entry.occurrences) =
      Category.all.map fun c => ((countedUnder c tokens).length : Int) := by
  rw [aggregate_eq_mapM] at h
  rw [← List.forall₂_eq_eq_eq, List.forall₂_map_left_iff, List.forall₂_map_right_iff]
  refine (forall₂_of_mapM h).flip.imp ?_
  intro entry c hentry
  obtain ⟨x, -, rfl⟩ := map_eq_ok hentry
  rfl

/-- The occurrences of all categories together. -/
def allOccurrences (stats : StatsVector) : Int :=
  (stats.map fun entry => entry.occurrences).foldr (· + ·) 0

/-- **Occurrences add up** to the number of tokens. -/
theorem allOccurrences_of_aggregate (h : aggregate tokens = .ok stats) :
    allOccurrences stats = tokens.length := by
  unfold allOccurrences
  rw [occurrences_of_aggregate h, ← sum_length_countedUnder tokens, ← List.sum_eq_foldr,
    ← List.sum_eq_foldr, Nat.cast_list_sum, List.map_map]
  rfl

/-- **Aggregation divides the tokens among the categories.** Grouping gives the items with a key the
    group of that key, keys in the order in which they appear. So an aggregate has fourteen entries,
    and that of a category counts the tokens under it and has the standard deviation of their lines,
    in their order. It is made whenever these deviations are, as they are of all lines that have
    doubles, and fails as one of them does. The occurrences add up to the number of tokens, and
    tokens of other categories do not matter for an entry. -/
theorem aggregation_divides_tokens (tokens : List Token) :
    (∀ (κ α : Type) [DecidableEq κ] (key : α → κ) (items : List α),
      IsGrouping key items (groupBy key items)) ∧
    (∀ stats, aggregate tokens = .ok stats ↔ Summarizes tokens stats) ∧
    ((∃ stats, aggregate tokens = .ok stats) ↔ ∀ c, ∃ x, lineDeviation c tokens = .ok x) ∧
    (∀ e, aggregate tokens = .error e → ∃ c, lineDeviation c tokens = .error e) ∧
    ((∀ tok ∈ tokens, tok.line.natAbs < Number.twoTo 1000) →
      tokens.length < Number.twoTo 1000 → ∃ stats, aggregate tokens = .ok stats) ∧
    (∀ stats, aggregate tokens = .ok stats →
      allOccurrences stats = tokens.length ∧
      ∀ others stats' c, aggregate others = .ok stats' →
        countedUnder c others = countedUnder c tokens →
        stats'[c.ordinal]? = stats[c.ordinal]?) := by
  refine ⟨fun κ α _ key items => isGrouping_groupBy key items, fun stats => aggregate_eq_ok_iff,
    aggregate_succeeds_iff, fun e he => exists_lineDeviation_eq_error he, aggregate_succeeds, ?_⟩
  intro stats hstats
  refine ⟨allOccurrences_of_aggregate hstats, ?_⟩
  intro others stats' c hstats' hsame
  obtain ⟨x, hx, hget⟩ := (summarizes_of_aggregate hstats).entry c
  obtain ⟨x', hx', hget'⟩ := (summarizes_of_aggregate hstats').entry c
  -- the deviation is taken of the tokens under the category alone
  have heq : lineDeviation c others = lineDeviation c tokens := by
    unfold lineDeviation
    rw [hsame]
  rw [heq, hx, Except.ok.injEq] at hx'
  rw [hget, hget', hsame, hx']

/-- Two kinds of one category, with a token of another category between them. -/
def sampleBranches : List Token :=
  [⟨1, .ifElse, 1, none⟩, ⟨5, .returnStatement, 1, none⟩, ⟨3, .switchCase, 1, none⟩]

theorem aggregation_divides_tokens_sampleBranches :
    (∀ tok ∈ sampleBranches, tok.line.natAbs < Number.twoTo 1000) ∧
    sampleBranches.length < Number.twoTo 1000 ∧
    ∃ stats x, aggregate sampleBranches = .ok stats ∧ stats.length = 14 ∧
      standardDeviation [.whole 1, .whole 3] = .ok x ∧
      stats[Category.ifSwitchCase.ordinal]? = some { occurrences := 2, dispersion := x } ∧
      allOccurrences stats = 3 := by
  obtain ⟨-, hiff, -, -, hrange, hall⟩ := aggregation_divides_tokens sampleBranches
  have hlines : ∀ tok ∈ sampleBranches, tok.line.natAbs < Number.twoTo 1000 := by decide +kernel
  have hlength : sampleBranches.length < Number.twoTo 1000 := by decide +kernel
  obtain ⟨stats, hstats⟩ := hrange hlines hlength
  obtain ⟨hfourteen, hentry⟩ := (hiff stats).1 hstats
  obtain ⟨x, hx, hget⟩ := hentry .ifSwitchCase
  exact ⟨hlines, hlength, stats, x, hstats, hfourteen, hx, hget, (hall stats hstats).1⟩

end SourceCensus
