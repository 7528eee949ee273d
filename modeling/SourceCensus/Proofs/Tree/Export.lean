import SourceCensus.Tree.Export
import SourceCensus.Proofs.Stats.Merging
import SourceCensus.Proofs.Tree.Address

/-! # What an exported tree shows

    An exported tree is a JSON value with a value for every node, and addresses lead to these as
    they do to the nodes (`exportedAt?`). The value of a node shows the node (`Shows`): what it
    carries besides its links, its statistics under the names of their categories, and a value for
    each of its children.

    A node can be shown when it has at most as many statistics as there are categories, and a tree
    when all its nodes can (`toJson_succeeds_iff`). What is shown leaves no choice about a node
    (`Shows.alike`), so an export tells two trees apart unless they differ in nothing but links.
-/

namespace SourceCensus

open Json (Value Members)

/-! ## Statistics -/

/-- Labels are put to statistics from the front; where they do not suffice, there is no export. -/
theorem statsToJson_eq (labels : List String) (stats : StatsVector) :
    statsToJson labels stats =
      if stats.length ≤ labels.length then
        .ok (List.zipWith CategoryStats.toJson labels stats)
      else .error .unlabelledStats := by
  induction stats generalizing labels with
  | nil => cases labels <;> rfl
  | cons s rest ih =>
    cases labels with
    | nil => rfl
    | cons label more =>
      rw [statsToJson, ih, List.length_cons, List.length_cons]
      by_cases hlength : rest.length ≤ more.length
      · rw [if_pos hlength, if_pos (Nat.succ_le_succ hlength)]
        rfl
      · rw [if_neg hlength, if_neg (mt Nat.le_of_succ_le_succ hlength)]
        rfl

theorem getElem?_legend (c : Category) : Category.legend[c.ordinal]? = some c.displayName := by
  unfold Category.legend
  rw [List.getElem?_map, getElem?_ordinal]
  rfl

/-- Statistics as they are exported: one entry for each, in their order, under the name of the
    category with the place of the entry. -/
structure ShowsStats (stats : StatsVector) (entries : List Value) : Prop where
  length_eq : entries.length = stats.length
  entry : ∀ i s, stats[i]? = some s → ∃ c : Category, c.ordinal = i ∧
    entries[i]? = some (.object [("category", .string c.displayName),
      ("occurrences", .int s.occurrences), ("dispersion", .float s.dispersion)])

theorem showsStats_of_statsToJson {stats : StatsVector} {entries : List Value}
    (h : statsToJson Category.legend stats = .ok entries) : ShowsStats stats entries := by
  rw [statsToJson_eq] at h
  by_cases hlength : stats.length ≤ Category.legend.length
  · rw [if_pos hlength] at h
    cases h
    refine ⟨by rw [List.length_zipWith]; omega, ?_⟩
    intro i s hs
    have hi : i < stats.length := (List.getElem?_eq_some_iff.1 hs).1
    obtain ⟨c, rfl⟩ := exists_ordinal_eq (Nat.lt_of_lt_of_le hi hlength)
    refine ⟨c, rfl, ?_⟩
    rw [List.getElem?_zipWith, getElem?_legend, hs]
    rfl
  · rw [if_neg hlength] at h
    cases h

/-- Exported entries leave no choice about the statistics. -/
theorem ShowsStats.unique {stats stats' : StatsVector} {entries : List Value}
    (h : ShowsStats stats entries) (h' : ShowsStats stats' entries) : stats = stats' := by
  apply List.ext_getElem (h.length_eq.symm.trans h'.length_eq)
  intro i hi hi'
  obtain ⟨c, hc, hentry⟩ := h.entry i _ (List.getElem?_eq_getElem hi)
  obtain ⟨c', hc', hentry'⟩ := h'.entry i _ (List.getElem?_eq_getElem hi')
  rw [hentry, Option.some.injEq, Value.object.injEq] at hentry'
  obtain ⟨-, hoccurrences, hdispersion⟩ : c.displayName = c'.displayName ∧
      stats[i].occurrences = stats'[i].occurrences ∧
      stats[i].dispersion = stats'[i].dispersion := by
    simpa using hentry'
  cases hs : stats[i]
  cases hs' : stats'[i]
  rw [hs, hs'] at hoccurrences hdispersion
  rw [CategoryStats.mk.injEq]
  exact ⟨hoccurrences, hdispersion⟩

namespace Tree

variable {t u n m : Tree} {v w : Value} {a : Address}

/-! ## One node -/

/-- An exported node: the fields of the node, an entry for each of its statistics and an exported
    node for each of its children. Whether it is a leaf is told by the children that are
    exported. -/
def Shows (n : Tree) (v : Value) : Prop :=
  ∃ entries nodes, v = .object [
      ("path", .string n.info.path),
      ("is_leaf", .bool nodes.isEmpty),
      ("is_file", .bool n.info.isFile),
      ("is_collapsed", .bool n.info.isCollapsed),
      ("line_count", .int n.info.lineCount),
      ("category_stats", .array entries),
      ("children", .array nodes)] ∧
    ShowsStats n.info.stats entries ∧ nodes.length = n.children.length

/-- Two nodes that differ in nothing that is exported: they carry the same besides the links, and
    have equally many children, which are told apart by their indices. -/
structure Alike (n m : Tree) : Prop where
  path : n.info.path = m.info.path
  isFile : n.info.isFile = m.info.isFile
  isCollapsed : n.info.isCollapsed = m.info.isCollapsed
  lineCount : n.info.lineCount = m.info.lineCount
  stats : n.info.stats = m.info.stats
  children : n.children.length = m.children.length

/-- **What is shown leaves no choice** about the node. -/
theorem Shows.alike (h : Shows n v) (h' : Shows m v) : Alike n m := by
  obtain ⟨entries, nodes, rfl, hstats, hlength⟩ := h
  obtain ⟨entries', nodes', heq, hstats', hlength'⟩ := h'
  simp only [Value.object.injEq, List.cons.injEq, Prod.mk.injEq, Value.string.injEq,
    Value.bool.injEq, Value.int.injEq, Value.array.injEq, true_and, and_true] at heq
  obtain ⟨hpath, -, hfile, hcollapsed, hlines, rfl, rfl⟩ := heq
  exact ⟨hpath, hfile, hcollapsed, hlines, hstats.unique hstats', hlength.symm.trans hlength'⟩

/-! ## One level -/

theorem toJsons_eq_mapM (ts : List Tree) : toJsons ts = ts.mapM toJson := by
  induction ts with
  | nil => rfl
  | cons t ts ih => rw [toJsons, ih, List.mapM_cons]

/-- **What is exported for a node:** the fields, the statistics and the children, if they all can
    be. -/
theorem toJson_eq_ok (h : t.toJson = .ok v) :
    ∃ entries nodes, statsToJson Category.legend t.info.stats = .ok entries ∧
      List.Forall₂ (fun c w => c.toJson = .ok w) t.children nodes ∧
      v = .object [
        ("path", .string t.info.path),
        ("is_leaf", .bool t.children.isEmpty),
        ("is_file", .bool t.info.isFile),
        ("is_collapsed", .bool t.info.isCollapsed),
        ("line_count", .int t.info.lineCount),
        ("category_stats", .array entries),
        ("children", .array nodes)] := by
  cases t with
  | node info cs =>
    rw [toJson, toJsons_eq_mapM] at h
    obtain ⟨entries, hentries, h⟩ := bind_eq_ok h
    obtain ⟨nodes, hnodes, h⟩ := bind_eq_ok h
    cases h
    exact ⟨entries, nodes, hentries, forall₂_of_mapM hnodes, rfl⟩

theorem toJson_succeeds (hstats : t.info.stats.length ≤ 14)
    (hchildren : ∀ c ∈ t.children, ∃ w, c.toJson = .ok w) : ∃ v, t.toJson = .ok v := by
  cases t with
  | node info cs =>
    have hentries : statsToJson Category.legend info.stats = .ok _ :=
      (statsToJson_eq _ _).trans (if_pos hstats)
    obtain ⟨nodes, hnodes⟩ := mapM_succeeds hchildren
    rw [toJson, toJsons_eq_mapM]
    exact bind_succeeds hentries (bind_succeeds hnodes ⟨_, rfl⟩)

/-! ## All nodes -/

/-- The exported nodes that stand in an exported node. -/
def exportedChildren : Value → List Value
  | .object ms =>
    match Members.get? ms "children" with
    | some (.array nodes) => nodes
    | _ => []
  | _ => []

/-- The exported node at an address. -/
def exportedAt? : Value → Address → Option Value
  | v, [] => some v
  | v, i :: rest => (exportedChildren v)[i]?.bind (exportedAt? · rest)

theorem shows_of_toJson (h : t.toJson = .ok v) : Shows t v := by
  obtain ⟨entries, nodes, hentries, hnodes, rfl⟩ := toJson_eq_ok h
  have hlength := hnodes.length_eq
  have hempty : t.children.isEmpty = nodes.isEmpty := by
    cases hcs : t.children with
    | nil =>
      rw [hcs] at hnodes
      cases hnodes
      rfl
    | cons c cs =>
      rw [hcs] at hnodes
      cases hnodes
      rfl
  rw [hempty]
  exact ⟨entries, nodes, rfl, showsStats_of_statsToJson hentries, hlength.symm⟩

/-- **Every node is shown** at its address, and nothing else is. -/
theorem rel_shows (h : t.toJson = .ok v) (a : Address) :
    Option.Rel Shows (t.get? a) (exportedAt? v a) := by
  induction a generalizing t v with
  | nil =>
    rw [get?_nil]
    exact .some (shows_of_toJson h)
  | cons i rest ih =>
    obtain ⟨entries, nodes, -, hnodes, hv⟩ := toJson_eq_ok h
    have hinside : exportedChildren v = nodes := by
      rw [hv]
      rfl
    rw [get?_cons, exportedAt?, hinside]
    -- a child and what is exported for it have the same index
    have hchild := rel_getElem?_of_forall₂ hnodes i
    generalize t.children[i]? = x, nodes[i]? = y at hchild ⊢
    cases hchild with
    | none => exact .none
    | some hc => exact ih hc

/-- A node that is shown has at most as many statistics as there are categories. -/
theorem Shows.length_stats_le (h : Shows n v) : n.info.stats.length ≤ 14 := by
  obtain ⟨entries, nodes, -, hstats, -⟩ := h
  by_contra hcontra
  obtain ⟨c, hc, -⟩ := hstats.entry 14 _ (List.getElem?_eq_getElem (by omega))
  cases c <;> cases hc

mutual

theorem toJson_of_get? (t : Tree)
    (h : ∀ a n, t.get? a = some n → n.info.stats.length ≤ 14) : ∃ v, t.toJson = .ok v := by
  cases t with
  | node info cs =>
    refine toJson_succeeds (h [] _ (get?_nil _)) (toJsons_of_get? cs ?_)
    -- the nodes of a child are nodes of the tree, with the index of the child in front
    intro i c hc a n hn
    refine h (i :: a) n ?_
    rw [get?_cons, children, hc, Option.bind_some, hn]

theorem toJsons_of_get? (ts : List Tree)
    (h : ∀ (i : Nat) c, ts[i]? = some c →
      ∀ a n, c.get? a = some n → n.info.stats.length ≤ 14) :
    ∀ c ∈ ts, ∃ w, c.toJson = .ok w := by
  cases ts with
  | nil => exact List.forall_mem_nil _
  | cons t ts =>
    refine List.forall_mem_cons.2 ⟨toJson_of_get? t (h 0 t rfl), toJsons_of_get? ts ?_⟩
    intro i c hc
    exact h (i + 1) c hc

end

/-- **When a tree can be exported.** -/
theorem toJson_succeeds_iff :
    (∃ v, t.toJson = .ok v) ↔ ∀ a n, t.get? a = some n → n.info.stats.length ≤ 14 := by
  constructor
  · intro h a n hn
    obtain ⟨v, hv⟩ := h
    have hshown := rel_shows hv a
    rw [hn] at hshown
    generalize exportedAt? v a = x at hshown
    cases hshown with
    | some hnode => exact hnode.length_stats_le
  · exact toJson_of_get? t

theorem toJson_eq_error_iff :
    t.toJson = .error .unlabelledStats ↔
      ∃ a n, t.get? a = some n ∧ 14 < n.info.stats.length := by
  constructor
  · intro h
    by_contra hcontra
    have hall : ∀ a n, t.get? a = some n → n.info.stats.length ≤ 14 := by
      intro a n hn
      by_contra hlength
      exact hcontra ⟨a, n, hn, Nat.lt_of_not_le hlength⟩
    obtain ⟨v, hv⟩ := toJson_succeeds_iff.2 hall
    rw [h] at hv
    cases hv
  · rintro ⟨a, n, hn, hlength⟩
    cases h : t.toJson with
    | ok v => exact absurd (toJson_succeeds_iff.1 ⟨v, h⟩ a n hn) (Nat.not_le_of_lt hlength)
    | error e => cases e; rfl

/-- **An export is faithful.** A tree can be exported exactly when no node has more than fourteen
    statistics, and there is one error otherwise. The export shows every node at its address and
    nothing else: its fields, its statistics under the names of their categories, its children in
    their order, and that it is a leaf when there are none. So trees with equal exports have nodes
    at the same addresses, and these are alike. -/
theorem export_is_faithful (t : Tree) :
    ((∃ v, t.toJson = .ok v) ↔ ∀ a n, t.get? a = some n → n.info.stats.length ≤ 14) ∧
    (t.toJson = .error .unlabelledStats ↔
      ∃ a n, t.get? a = some n ∧ 14 < n.info.stats.length) ∧
    ∀ v, t.toJson = .ok v →
      (∀ a, Option.Rel Shows (t.get? a) (exportedAt? v a)) ∧
      ∀ u : Tree, u.toJson = .ok v → ∀ a, Option.Rel Alike (t.get? a) (u.get? a) := by
  refine ⟨toJson_succeeds_iff, toJson_eq_error_iff, ?_⟩
  intro v hv
  refine ⟨rel_shows hv, ?_⟩
  intro u hu a
  have hleft := rel_shows hv a
  have hright := rel_shows hu a
  generalize t.get? a = x, u.get? a = y, exportedAt? v a = z at hleft hright ⊢
  cases hleft with
  | none =>
    cases hright with
    | none => exact .none
  | some hn =>
    cases hright with
    | some hm => exact .some (hn.alike hm)

/-- A folder with a file and a folder that was merged, whose nodes know their parent or do not. -/
def sampleShown (linked : Bool) : Tree :=
  .node { path := "p", lineCount := 3, stats := [⟨2, 0.5⟩] } [
    .node { path := "p/a", isFile := true, lineCount := 3, stats := [⟨2, 0.5⟩], linked } [],
    .node { path := "p/b", isCollapsed := true, lineCount := 0, linked } []]

theorem export_is_faithful_sampleShown :
    ∃ v, (sampleShown true).toJson = .ok v ∧ (sampleShown false).toJson = .ok v ∧
      (∃ n w, (sampleShown true).get? [0] = some n ∧ exportedAt? v [0] = some w ∧ Shows n w) ∧
      ∃ n m, (sampleShown true).get? [1] = some n ∧ (sampleShown false).get? [1] = some m ∧
        Alike n m ∧ n.info.linked = true ∧ m.info.linked = false := by
  have hlinked : (sampleShown true).toJson = .ok _ := rfl
  have hunlinked : (sampleShown false).toJson = .ok _ := rfl
  obtain ⟨hshown, halike⟩ := (export_is_faithful (sampleShown true)).2.2 _ hlinked
  refine ⟨_, hlinked, hunlinked, ⟨_, _, rfl, rfl, ?_⟩, ⟨_, _, rfl, rfl, ?_, rfl, rfl⟩⟩
  · exact Option.rel_some_some.1 (hshown [0])
  · exact Option.rel_some_some.1 (halike _ hunlinked [1])

end Tree

end SourceCensus
