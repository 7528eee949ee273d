import SourceCensus.Tree.Build
import SourceCensus.Proofs.Tree.Totals

/-! # Folders put together from children

    A folder takes its children over in their order, lets each know its parent and carries what
    they come to together (`ofChildren_eq_ok`). It is summarized when they are
    (`summarized_ofChildren`), and all links are there when they are in the children
    (`linked_ofChildren`), so this holds of every tree that is put together from below.
-/

namespace SourceCensus.Tree

variable {t : Tree} {cs : List Tree} {path : String}

/-- A child that knows its parent. -/
def attached (t : Tree) : Tree := t.withInfo { t.info with linked := true }

@[simp] theorem info_attached (t : Tree) : t.attached.info = { t.info with linked := true } := by
  cases t
  rfl

@[simp] theorem children_attached (t : Tree) : t.attached.children = t.children := by
  cases t
  rfl

/-- Attaching a child changes nothing below it. -/
theorem get?_attached_cons (t : Tree) (i : Nat) (a : Address) :
    t.attached.get? (i :: a) = t.get? (i :: a) := by
  rw [get?_cons, get?_cons, children_attached]

/-- Attached children come to the same lines and statistics. -/
theorem parts_attached (info : NodeInfo) (cs : List Tree) :
    (Tree.node info (cs.map attached)).parts =
      cs.map fun c => (c.info.lineCount, c.info.stats) := by
  simp only [parts, children, List.map_map, Function.comp_def, info_attached]

/-- **What a folder is.** -/
theorem ofChildren_eq_ok (h : ofChildren path cs = .ok t) :
    t.children = cs.map attached ∧ t.info.path = path ∧ t.info.isFile = false ∧
      (cs = [] → (t.info.lineCount, t.info.stats) = (0, emptyStats)) ∧
      (cs ≠ [] → mergeStats t.parts = .ok (t.info.lineCount, t.info.stats)) := by
  cases cs with
  | nil =>
    cases h
    exact ⟨rfl, rfl, rfl, fun _ => rfl, fun hne => absurd rfl hne⟩
  | cons c cs =>
    obtain ⟨⟨lineCount, stats⟩, hmerged, rfl⟩ := map_eq_ok h
    refine ⟨rfl, rfl, rfl, fun hnil => absurd hnil (List.cons_ne_nil c cs), ?_⟩
    intro _
    exact (congrArg mergeStats (parts_attached _ (c :: cs))).trans hmerged

/-- Children that can be merged can be put into a folder. -/
theorem ofChildren_succeeds
    (h : ∃ merged, mergeStats (cs.map fun c => (c.info.lineCount, c.info.stats)) = .ok merged) :
    ∃ t, ofChildren path cs = .ok t := by
  obtain ⟨merged, hmerged⟩ := h
  unfold ofChildren
  by_cases hnil : cs.isEmpty
  · exact ⟨_, if_pos hnil⟩
  · rw [if_neg hnil, hmerged]
    exact ⟨_, rfl⟩

theorem Summarized.attached (h : t.Summarized) : t.attached.Summarized := by
  intro a n hn hfolder
  cases a with
  | nil =>
    rw [get?_nil, Option.some.injEq] at hn
    subst hn
    rw [isLeaf, children_attached] at hfolder
    rw [info_attached, parts, children_attached]
    exact h.of_not_isLeaf hfolder
  | cons i a =>
    rw [get?_attached_cons] at hn
    exact h (i :: a) n hn hfolder

/-- **A folder of summarized children is summarized.** -/
theorem summarized_ofChildren (hcs : ∀ c ∈ cs, c.Summarized) (h : ofChildren path cs = .ok t) :
    t.Summarized := by
  obtain ⟨hchildren, -, -, -, hmerged⟩ := ofChildren_eq_ok h
  cases t with
  | node info ts =>
    have hts : ts = cs.map Tree.attached := hchildren
    subst hts
    apply summarized_node
    · intro c hc
      obtain ⟨d, hd, rfl⟩ := List.mem_map.1 hc
      exact (hcs d hd).attached
    · intro hne
      exact hmerged (by simpa using hne)

theorem linked_of_isLeaf (h : t.isLeaf = true) : t.Linked := by
  intro a n ha hn
  cases a with
  | nil => exact absurd rfl ha
  | cons i a =>
    rw [get?_cons_of_isLeaf h] at hn
    cases hn

/-- **In a folder of linked children** every node below the top knows its parent. -/
theorem linked_ofChildren (hcs : ∀ c ∈ cs, c.Linked) (h : ofChildren path cs = .ok t) :
    t.Linked := by
  obtain ⟨hchildren, -⟩ := ofChildren_eq_ok h
  intro a n ha hn
  cases a with
  | nil => exact absurd rfl ha
  | cons i a =>
    rw [get?_cons, hchildren] at hn
    obtain ⟨d, hd, hn⟩ := Option.bind_eq_some_iff.1 hn
    obtain ⟨c, hc, rfl⟩ := List.mem_map.1 (List.mem_of_getElem? hd)
    cases a with
    | nil =>
      rw [get?_nil, Option.some.injEq] at hn
      rw [← hn, info_attached]
    | cons j a =>
      rw [get?_attached_cons] at hn
      exact hcs c hc (j :: a) n (List.cons_ne_nil j a) hn

end SourceCensus.Tree
