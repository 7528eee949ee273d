import SourceCensus.Proofs.Classification.Coverage
import SourceCensus.Proofs.Stats.Aggregation
import SourceCensus.Proofs.Survey.Outline
import SourceCensus.Proofs.Tree.Folder
import SourceCensus.Proofs.Tree.Traversal
import SourceCensus.Proofs.Workers

/-! # Assembling the tree of a survey

    A tree that is put together from a survey has the survey's outline, every node carries what it
    stands for, and the top carries the totals over the files (`Assembled`). This goes by one
    induction on the survey (`assemble_induction`): a file has its leaf, and a folder is made
    from its children.

    The tree exists when every file has a leaf and the files together have less than two to the
    power of 1000 lines (`assemble_succeeds`), since the children of a folder then have doubles.
-/

namespace SourceCensus

open Survey (Mark)

/-! ## Texts -/

/-- How much of a measure there is in a text. -/
def Measure.ofText : Measure → Text → Int
  | .lines, t => t.normalizeNewlines.countLines
  | .occurrences c, t => (tokenize t).countP fun tok => tok.category == c

/-- How much of a measure there is in files together. -/
def Measure.inFiles (m : Measure) (text : String → Text) (files : List String) : Int :=
  (files.map fun p => m.ofText (text p)).foldr (· + ·) 0

section InFiles

variable {m : Measure} {text : String → Text}

@[simp] theorem inFiles_nil : m.inFiles text [] = 0 := rfl

@[simp] theorem inFiles_cons (p : String) (files : List String) :
    m.inFiles text (p :: files) = m.ofText (text p) + m.inFiles text files := rfl

@[simp] theorem inFiles_append (files others : List String) :
    m.inFiles text (files ++ others) = m.inFiles text files + m.inFiles text others := by
  induction files with
  | nil => simp
  | cons p files ih => simp [ih, Int.add_assoc]

theorem ofText_nonneg (m : Measure) (t : Text) : 0 ≤ m.ofText t := by
  cases m <;> exact Int.natCast_nonneg _

theorem inFiles_nonneg (files : List String) : 0 ≤ m.inFiles text files := by
  induction files with
  | nil => exact Int.le_refl 0
  | cons p files ih => exact Int.add_nonneg (ofText_nonneg m _) ih

theorem ofText_le_inFiles {p : String} {files : List String} (hp : p ∈ files) :
    m.ofText (text p) ≤ m.inFiles text files := by
  induction files with
  | nil => cases hp
  | cons q files ih =>
    have hfirst := ofText_nonneg m (text q)
    have hrest : 0 ≤ m.inFiles text files := inFiles_nonneg files
    rw [inFiles_cons]
    rcases List.mem_cons.1 hp with rfl | hp
    · omega
    · have := ih hp
      omega

end InFiles

namespace Tree

variable {leaves : List (String × Tree)} {t c n : Tree} {cs : List Tree} {path : String}
  {text : String → Text} {s : Survey} {ε : Type}

/-! ## Nodes in pre-order -/

/-- What is listed for a node. -/
def mark (n : Tree) : Mark := ⟨n.info.isFile, n.info.path, n.children.map fun c => c.info.path⟩

/-- What is listed for the nodes of a tree, in pre-order. -/
def outline (t : Tree) : List Mark := t.preorder.map mark

theorem outline_eq (t : Tree) : t.outline = t.mark :: t.children.flatMap outline := by
  unfold outline
  rw [preorder_eq, List.map_cons, List.map_flatMap]

@[simp] theorem mark_attached (t : Tree) : t.attached.mark = t.mark := by
  simp [mark]

@[simp] theorem outline_attached (t : Tree) : t.attached.outline = t.outline := by
  rw [outline_eq, outline_eq, mark_attached, children_attached]

/-- What attaching a child keeps holds of all nodes of the tree that is made from children. -/
theorem forall_preorder_ofChildren {Q : Tree → Prop} (hattached : ∀ n, Q n → Q n.attached)
    (hcs : ∀ c ∈ cs, ∀ n ∈ c.preorder, Q n) (h : ofChildren path cs = .ok t) (ht : Q t) :
    ∀ n ∈ t.preorder, Q n := by
  intro n hn
  rw [preorder_eq, (ofChildren_eq_ok h).1, List.mem_cons, List.mem_flatMap] at hn
  rcases hn with rfl | ⟨d, hd, hn⟩
  · exact ht
  · obtain ⟨c, hc, rfl⟩ := List.mem_map.1 hd
    rw [preorder_eq, children_attached, List.mem_cons] at hn
    have hall := hcs c hc
    rw [preorder_eq] at hall
    rcases hn with rfl | hn
    · exact hattached c (hall c List.mem_cons_self)
    · exact hall n (List.mem_cons_of_mem c hn)

/-! ## One induction for all facts -/

mutual

/-- **What holds of the leaves of the files,** and of a folder when it holds of its children,
    holds of the tree of a survey. -/
theorem assemble_induction {P : Survey → Tree → Prop}
    (hfolder : ∀ path items cs t, List.Forall₂ P items cs → ofChildren path cs = .ok t →
      P (.folder path items) t)
    (s : Survey) (hfile : ∀ p ∈ s.files, P (.file p) (leafFor leaves p)) (t : Tree)
    (h : assemble leaves s = .ok t) : P s t := by
  cases s with
  | file p =>
    rw [assemble, Except.ok.injEq] at h
    exact h ▸ hfile p (List.mem_singleton_self p)
  | folder path items =>
    rw [assemble] at h
    cases hcs : assembleAll leaves items with
    | error e =>
      rw [hcs] at h
      cases h
    | ok cs =>
      rw [hcs] at h
      exact hfolder path items cs t (assembleAll_induction hfolder items hfile cs hcs) h

theorem assembleAll_induction {P : Survey → Tree → Prop}
    (hfolder : ∀ path items cs t, List.Forall₂ P items cs → ofChildren path cs = .ok t →
      P (.folder path items) t)
    (items : List Survey) (hfile : ∀ p ∈ Survey.filesOf items, P (.file p) (leafFor leaves p))
    (cs : List Tree) (h : assembleAll leaves items = .ok cs) : List.Forall₂ P items cs := by
  cases items with
  | nil =>
    rw [assembleAll, Except.ok.injEq] at h
    exact h ▸ .nil
  | cons s rest =>
    rw [Survey.filesOf] at hfile
    rw [assembleAll] at h
    cases ht : assemble leaves s with
    -- a survey whose first item fails has no trees
    | error e =>
      rw [ht] at h
      cases h
    | ok t =>
      rw [ht] at h
      obtain ⟨ts, hts, rfl⟩ := map_eq_ok h
      have hfirst := assemble_induction hfolder s
        (fun p hp => hfile p (List.mem_append_left _ hp)) t ht
      have hrest := assembleAll_induction hfolder rest
        (fun p hp => hfile p (List.mem_append_right _ hp)) ts hts
      exact .cons hfirst hrest

end

/-! ## What every node carries -/

/-- A file carries the lines and the statistics of its text and has nothing in it. -/
def CarriesText (text : String → Text) (n : Tree) : Prop :=
  n.isLeaf = true ∧ n.info.lineCount = (text n.info.path).normalizeNewlines.countLines ∧
    aggregate (tokenize (text n.info.path)) = .ok n.info.stats

/-- A folder carries what its children come to, and nothing but zeros when it has none. -/
def CarriesChildren (n : Tree) : Prop :=
  (n.isLeaf = true → (n.info.lineCount, n.info.stats) = (0, emptyStats)) ∧
    (n.isLeaf = false → mergeStats n.parts = .ok (n.info.lineCount, n.info.stats))

/-- A node carries what it stands for. -/
def Faithful (text : String → Text) (n : Tree) : Prop :=
  (n.info.isFile = true → CarriesText text n) ∧ (n.info.isFile = false → CarriesChildren n)

theorem Faithful.attached (h : Faithful text n) : Faithful text n.attached := by
  unfold Faithful CarriesText CarriesChildren isLeaf parts at *
  simpa using h

theorem amount_of_carriesText (h : CarriesText text n) (m : Measure) :
    n.info.amount m = m.ofText (text n.info.path) := by
  obtain ⟨-, hlines, hstats⟩ := h
  cases m with
  | lines => exact hlines
  | occurrences c => exact occurrencesAt_of_aggregate hstats c

theorem occurrencesAt_emptyStats (i : Nat) : occurrencesAt i emptyStats = 0 := by
  unfold occurrencesAt emptyStats
  rw [List.getElem?_map]
  cases Category.all[i]? <;> rfl

/-- A folder carries as much as its children together. -/
theorem amount_of_carriesChildren (h : CarriesChildren n) (m : Measure) :
    n.info.amount m = total m (n.children.map info) := by
  cases hleaf : n.isLeaf with
  | false => exact of_merged_parts (h.2 hleaf) m
  | true =>
    rw [isLeaf_iff.1 hleaf]
    have hzero := Prod.mk.inj (h.1 hleaf)
    cases m with
    | lines => exact hzero.1
    | occurrences c =>
      show occurrencesAt c.ordinal n.info.stats = 0
      rw [hzero.2, occurrencesAt_emptyStats]

/-! ## The tree of a survey -/

/-- What makes a tree the tree of a survey, for files with given texts. -/
structure Assembled (text : String → Text) (s : Survey) (t : Tree) : Prop where
  path_eq : t.info.path = s.path
  outline_eq : t.outline = s.outline
  faithful : ∀ n ∈ t.preorder, Faithful text n
  amount_eq : ∀ m : Measure, t.info.amount m = m.inFiles text s.files

/-- A leaf that carries a text is the tree of its file. -/
theorem assembled_leaf {p : String} (hfile : t.info.isFile = true) (hpath : t.info.path = p)
    (h : CarriesText text t) : Assembled text (.file p) t := by
  have hnil : t.children = [] := isLeaf_iff.1 h.1
  subst hpath
  refine ⟨rfl, ?_, ?_, ?_⟩
  · rw [outline_eq, hnil, mark, hnil, hfile]
    rfl
  · intro n hn
    rw [preorder_eq, hnil] at hn
    obtain rfl := List.mem_singleton.1 hn
    refine ⟨fun _ => h, fun hfolder => ?_⟩
    rw [hfile] at hfolder
    cases hfolder
  · intro m
    rw [amount_of_carriesText h, Survey.files, inFiles_cons, inFiles_nil, Int.add_zero]

/-- The children of a folder together: their paths, what they list, what their nodes carry, and
    their totals. -/
theorem of_forall₂_assembled {items : List Survey} (h : List.Forall₂ (Assembled text) items cs) :
    (cs.map fun c => c.info.path) = items.map Survey.path ∧
      cs.flatMap outline = Survey.outlineOf items ∧
      (∀ c ∈ cs, ∀ n ∈ c.preorder, Faithful text n) ∧
      ∀ m : Measure, total m (cs.map info) = m.inFiles text (Survey.filesOf items) := by
  induction h with
  | nil => exact ⟨rfl, rfl, List.forall_mem_nil _, fun m => rfl⟩
  | cons hfirst _ ih =>
    obtain ⟨hpaths, houtline, hfaithful, htotal⟩ := ih
    refine ⟨?_, ?_, ?_, ?_⟩
    · rw [List.map_cons, List.map_cons, hfirst.path_eq, hpaths]
    · rw [List.flatMap_cons, Survey.outlineOf, hfirst.outline_eq, houtline]
    · exact List.forall_mem_cons.2 ⟨hfirst.faithful, hfaithful⟩
    · intro m
      rw [List.map_cons, total_cons, Survey.filesOf, inFiles_append, hfirst.amount_eq, htotal]

/-- Attaching changes nothing that is counted. -/
theorem total_map_attached (m : Measure) (cs : List Tree) :
    total m ((cs.map attached).map info) = total m (cs.map info) := by
  unfold total
  simp only [List.map_map]
  congr 1
  refine List.map_congr_left fun c _ => ?_
  simp [NodeInfo.amount]

/-- **A folder put together** from the trees of its items is the tree of the folder. -/
theorem assembled_folder {items : List Survey} (hcs : List.Forall₂ (Assembled text) items cs)
    (h : ofChildren path cs = .ok t) : Assembled text (.folder path items) t := by
  obtain ⟨hchildren, hpath, hfile, hnil, hmerged⟩ := ofChildren_eq_ok h
  obtain ⟨hpaths, houtline, hfaithful, htotal⟩ := of_forall₂_assembled hcs
  -- attaching neither adds nor drops a child
  have hleaf : t.isLeaf = true ↔ cs = [] := by
    rw [isLeaf_iff, hchildren, List.map_eq_nil_iff]
  have hcarries : CarriesChildren t := by
    refine ⟨fun h => hnil (hleaf.1 h), fun h => hmerged fun hnil => ?_⟩
    rw [hleaf.2 hnil] at h
    cases h
  refine ⟨hpath, ?_, ?_, ?_⟩
  · -- the outline is that of the folder, then those of the items
    have hinside : t.children.map (fun c => c.info.path) = items.map Survey.path := by
      rw [hchildren, List.map_map, ← hpaths]
      refine List.map_congr_left fun c _ => ?_
      simp
    have hbelow : t.children.flatMap outline = Survey.outlineOf items := by
      rw [hchildren, List.flatMap_map, ← houtline]
      simp
    rw [outline_eq, mark, hinside, hbelow, hpath, hfile, Survey.outline]
  · -- the folder itself carries what its children come to, and it is no file
    have hkeeps : ∀ n, Faithful text n → Faithful text n.attached := fun _ hn => hn.attached
    apply forall_preorder_ofChildren hkeeps hfaithful h
    refine ⟨fun hfile' => ?_, fun _ => hcarries⟩
    rw [hfile] at hfile'
    cases hfile'
  · -- the amount of a folder is the total over its files
    intro m
    rw [amount_of_carriesChildren hcarries, Survey.files, ← htotal, hchildren, total_map_attached]

/-! ## From files to a tree -/

variable {read : String → Except ε Text} {workers : Int} {finish : List Nat} {files : List String}

/-- The leaf that is made for a file carries its text. -/
theorem assembled_ofFile {p : String} (hread : read p = .ok (text p)) (h : ofFile read p = .ok t) :
    Assembled text (.file p) t := by
  unfold ofFile at h
  rw [hread] at h
  dsimp only at h
  cases hleaf : ofText p (text p) with
  | error e =>
    rw [hleaf] at h
    cases h
  | ok leaf =>
    rw [hleaf] at h
    cases h
    obtain ⟨stats, hstats, rfl⟩ := map_eq_ok hleaf
    exact assembled_leaf rfl rfl ⟨rfl, rfl, hstats⟩

/-- Among the leaves that were made, the leaf of a file is the one that its path was given. A path
    that is there twice has been given the same leaf twice. -/
theorem ofFile_leafFor {made : List Tree}
    (h : List.Forall₂ (fun p t => ofFile read p = .ok t) files made) {p : String}
    (hp : p ∈ files) : ofFile read p = .ok (leafFor (files.zip made) p) := by
  induction h with
  | nil => cases hp
  | @cons q t files made hfirst _ ih =>
    unfold leafFor at ih ⊢
    rw [List.zip_cons_cons, List.lookup_cons]
    -- the first leaf with the path is taken, and it was made for that path
    by_cases hpq : p = q
    · subst hpq
      rw [beq_self_eq_true]
      exact hfirst
    · have hne : (p == q) = false := by simpa using hpq
      rw [hne]
      exact ih ((List.mem_cons.1 hp).resolve_left hpq)

/-- **Workers do not matter** for the outcome of a survey, nor does the order in which they
    finish. -/
theorem ofSurvey_eq_ofSurvey (workers others : Int) (finish later : List Nat) :
    ofSurvey read workers finish s = ofSurvey read others later s := by
  unfold ofSurvey
  rw [Workers.results_eq_oneByOne, Workers.results_eq_oneByOne]

/-- The tree of a survey is put together from the leaves of its files, whoever makes them. -/
theorem ofSurvey_eq_ok_iff : ofSurvey read workers finish s = .ok t ↔
    ∃ made, List.mapM (ofFile read) s.files = .ok made ∧
      assemble (s.files.zip made) s = .ok t := by
  unfold ofSurvey
  rw [Workers.results_eq_oneByOne, Workers.oneByOne_eq_mapM]
  cases hmade : List.mapM (ofFile read) s.files with
  | error e => simp
  | ok made =>
    cases htree : assemble (s.files.zip made) s with
    | error e => simp [htree]
    | ok t => simp [htree]

/-- **The tree of a survey** is assembled as it should be. -/
theorem assembled_ofSurvey (hread : ∀ p ∈ s.files, read p = .ok (text p))
    (h : ofSurvey read workers finish s = .ok t) : Assembled text s t := by
  obtain ⟨made, hmade, htree⟩ := ofSurvey_eq_ok_iff.1 h
  apply assemble_induction _ s _ t htree
  · intro path items cs t hcs ht
    exact assembled_folder hcs ht
  · intro p hp
    exact assembled_ofFile (hread p hp) (ofFile_leafFor (forall₂_of_mapM hmade) hp)

/-! ## When there is a tree -/

/-- The lines of the children of a folder are those of its files. -/
theorem lineWeight_of_forall₂_assembled {items : List Survey}
    (h : List.Forall₂ (Assembled text) items cs) :
    (lineWeight (cs.map info) : Int) = Measure.lines.inFiles text (Survey.filesOf items) := by
  induction h with
  | nil => rfl
  | @cons item c items cs hfirst _ ih =>
    have hlines : c.info.lineCount = Measure.lines.inFiles text item.files :=
      hfirst.amount_eq .lines
    have hnonneg : 0 ≤ Measure.lines.inFiles text item.files := inFiles_nonneg item.files
    rw [List.map_cons, lineWeight_cons, Survey.filesOf, inFiles_append, ← ih]
    omega

mutual

/-- **A tree can be put together** when the files together have a number of lines with a double. -/
theorem assemble_succeeds (s : Survey)
    (hfile : ∀ p ∈ s.files, Assembled text (.file p) (leafFor leaves p))
    (hlight : Measure.lines.inFiles text s.files < Number.twoTo 1000) :
    ∃ t, assemble leaves s = .ok t := by
  cases s with
  | file p => exact ⟨leafFor leaves p, by rw [assemble]⟩
  | folder path items =>
    obtain ⟨cs, hcs⟩ := assembleAll_succeeds items hfile hlight
    -- the children that are there say how many lines have to be added up
    have hassembled := assembleAll_induction (fun _ _ _ _ => assembled_folder) items hfile cs hcs
    have hweight := lineWeight_of_forall₂_assembled hassembled
    rw [Survey.files, ← hweight] at hlight
    have hmerged : ∃ merged, mergeStats (Tree.node { path } cs).parts = .ok merged :=
      mergeStats_succeeds (Int.ofNat_lt.1 hlight)
    obtain ⟨t, ht⟩ := ofChildren_succeeds hmerged
    exact ⟨t, by rw [assemble, hcs]; exact ht⟩

theorem assembleAll_succeeds (items : List Survey)
    (hfile : ∀ p ∈ Survey.filesOf items, Assembled text (.file p) (leafFor leaves p))
    (hlight : Measure.lines.inFiles text (Survey.filesOf items) < Number.twoTo 1000) :
    ∃ cs, assembleAll leaves items = .ok cs := by
  cases items with
  | nil => exact ⟨[], by rw [assembleAll]⟩
  | cons s rest =>
    have hfirst : 0 ≤ Measure.lines.inFiles text s.files := inFiles_nonneg _
    have hrest : 0 ≤ Measure.lines.inFiles text (Survey.filesOf rest) := inFiles_nonneg _
    rw [Survey.filesOf, inFiles_append] at hlight
    obtain ⟨t, ht⟩ := assemble_succeeds s
      (fun p hp => hfile p (List.mem_append_left _ hp)) (by omega)
    obtain ⟨ts, hts⟩ := assembleAll_succeeds rest
      (fun p hp => hfile p (List.mem_append_right _ hp)) (by omega)
    exact ⟨t :: ts, by rw [assembleAll, ht, hts]; rfl⟩

end

/-- A file has a leaf when its lines and tokens have numbers with doubles. -/
theorem ofFile_succeeds {p : String} (hread : read p = .ok (text p))
    (hlines : Measure.lines.ofText (text p) < Number.twoTo 1000)
    (htokens : (tokenize (text p)).length < Number.twoTo 1000) : ∃ t, ofFile read p = .ok t := by
  have hinside : ∀ tok ∈ tokenize (text p), tok.line.natAbs < Number.twoTo 1000 := by
    intro tok htok
    have hbetween := line_of_mem_tokenize htok
    have hcount : ((text p).normalizeNewlines.countLines : Int) < Number.twoTo 1000 := hlines
    omega
  obtain ⟨stats, hstats⟩ := aggregate_succeeds hinside htokens
  unfold ofFile ofText
  rw [hread]
  dsimp only
  rw [hstats]
  exact ⟨_, rfl⟩

/-- **A survey has a tree** when its files together have a number of lines with a double, and none
    of them has more tokens than that. -/
theorem ofSurvey_succeeds (hread : ∀ p ∈ s.files, read p = .ok (text p))
    (hlight : Measure.lines.inFiles text s.files < Number.twoTo 1000)
    (htokens : ∀ p ∈ s.files, (tokenize (text p)).length < Number.twoTo 1000) :
    ∃ t, ofSurvey read workers finish s = .ok t := by
  have hmade : ∀ p ∈ s.files, ∃ t, ofFile read p = .ok t := by
    intro p hp
    have hle : Measure.lines.ofText (text p) ≤ Measure.lines.inFiles text s.files :=
      ofText_le_inFiles hp
    exact ofFile_succeeds (hread p hp) (Int.lt_of_le_of_lt hle hlight) (htokens p hp)
  obtain ⟨made, hmade⟩ := mapM_succeeds hmade
  have hleaves : ∀ p ∈ s.files, Assembled text (.file p) (leafFor (s.files.zip made) p) :=
    fun p hp => assembled_ofFile (hread p hp) (ofFile_leafFor (forall₂_of_mapM hmade) hp)
  obtain ⟨t, ht⟩ := assemble_succeeds s hleaves hlight
  exact ⟨t, ofSurvey_eq_ok_iff.2 ⟨made, hmade, ht⟩⟩

end Tree

end SourceCensus
