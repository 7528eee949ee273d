import SourceCensus.Proofs.Pattern.Steps

/-! # What is wrong with a text that is no pattern

    Most texts that are no patterns are malformed. There are five other errors, and the text shows
    each of them (`shown_of_compile`): it holds the digits of a number of repetitions that is too
    large, more digits than are read, or the eight digits of a character that is too large; it holds
    the letters of both alphabets; or it is long enough for groups that are nested too deeply.

    The parts of the reader that call one another are compared with themselves, given one unit of
    fuel more (`Parts`). Where there are four units for each mark that is left, and a few more, the
    unit changes nothing, so that fuel never runs out (`readChoice_of_enough`). On the way each part
    pays for the depth of what it builds with the marks that it takes.
-/

namespace SourceCensus.Pattern

open Reader

variable {f : Facilities} {calls : Nat} {all : List Mark} {k b fuel room start : Nat}
  {verbose top atStart : Bool} {acc : List Node}

/-! ## Parts of the reader -/

/-- Two ways to read a node do the same, and the node is no deeper than the marks allow that have
    been taken since `b` marks were. -/
abbrev Builds (calls : Nat) (all : List Mark) (k b : Nat) (x y : Reader Node) : Prop :=
  Alike calls all k (fun n j => k ≤ j ∧ b + n.depth ≤ j) x y

/-- The parts of the reader that call one another need no more than some fuel. What a part needs
    depends on the number of marks that are left. -/
structure Parts (f : Facilities) (calls : Nat) (all : List Mark) (fuel : Nat) : Prop where
  choice : ∀ {k b room verbose top}, 4 * all.length + 2 ≤ fuel + 4 * k →
    calls ≤ room + 2 * k + 2 → b ≤ k → Builds calls all k b
      (readChoice f fuel room verbose top) (readChoice f (fuel + 1) room verbose top)
  branches : ∀ {k b room verbose top}, 4 * all.length + 1 ≤ fuel + 4 * k →
    calls ≤ room + 2 * k + 2 → b ≤ k →
      Alike calls all k
        (fun ns j => k ≤ j ∧ (ns ≠ [] → k + 1 ≤ j ∧ b + depthOfAll ns + 1 ≤ j))
        (readBranches f fuel room verbose top) (readBranches f (fuel + 1) room verbose top)
  sequence : ∀ {k b room verbose atStart acc}, 4 * all.length + 1 ≤ fuel + 4 * k →
    calls ≤ room + 2 * k + 2 → b + depthOfAll acc ≤ k → Builds calls all k b
      (readSequence f fuel room verbose atStart acc)
      (readSequence f (fuel + 1) room verbose atStart acc)
  body : ∀ {k b room start verbose}, 4 * all.length + 3 ≤ fuel + 4 * k →
    calls ≤ room + 2 * k → b ≤ k → Builds calls all k b
      (readGroupBody f fuel room start verbose) (readGroupBody f (fuel + 1) room start verbose)
  capture : ∀ {k b room start verbose name}, 4 * all.length + 4 ≤ fuel + 4 * k →
    calls ≤ room + 2 * k → b < k → Builds calls all k b
      (readCapture f fuel room start verbose name)
      (readCapture f (fuel + 1) room start verbose name)
  behind : ∀ {k b room start verbose negated}, 4 * all.length + 4 ≤ fuel + 4 * k →
    calls ≤ room + 2 * k → b < k → Builds calls all k b
      (readBehind f fuel room start verbose negated)
      (readBehind f (fuel + 1) room start verbose negated)
  conditional : ∀ {k b room start verbose}, 4 * all.length + 2 ≤ fuel + 4 * k →
    calls ≤ room + 2 * k → b < k → Builds calls all k b
      (readConditional f fuel room start verbose) (readConditional f (fuel + 1) room start verbose)
  extension : ∀ {k b room start verbose atStart acc}, 4 * all.length + 1 ≤ fuel + 4 * k →
    calls ≤ room + 2 * k → b + depthOfAll acc < k → Builds calls all k b
      (readExtension f fuel room start verbose atStart acc)
      (readExtension f (fuel + 1) room start verbose atStart acc)

/-- Calls that are left over allow what a step does with fewer of them. -/
theorem alike_within {α : Type} {Q : α → Nat → Prop} {needed : Nat} {x y : Nat → Reader α}
    (hfew : room < needed → calls < 2 * all.length + 2)
    (h : needed ≤ room → Alike calls all k Q (x (room - needed)) (y (room - needed))) :
    Alike calls all k Q (within room needed x) (within room needed y) := by
  unfold within
  exact alike_ite (fun hlt => keeps_throw (.nested (hfew hlt))) fun hle => h (Nat.le_of_not_lt hle)

section Parts

variable (ih : Parts f calls all fuel)
include ih

theorem builds_readChoice (hfuel : 4 * all.length + 2 ≤ fuel + 1 + 4 * k)
    (hroom : calls ≤ room + 2 * k + 2) (hb : b ≤ k) :
    Builds calls all k b (readChoice f (fuel + 1) room verbose top)
      (readChoice f (fuel + 1 + 1) room verbose top) := by
  rw [readChoice, readChoice]
  refine (ih.sequence (by omega) hroom (show b + depthOfAll [] ≤ k from hb)).bind
    fun first j hfirst => ?_
  refine (ih.branches (b := b) (by omega) (by omega) (by omega)).bind fun rest i hrest =>
    keeps_pure ⟨by omega, ?_⟩
  cases rest with
  | nil =>
    rw [choiceNode_singleton]
    omega
  | cons n ns =>
    have hdepth := depth_choiceNode_le (first :: n :: ns)
    have hmore := hrest.2 (List.cons_ne_nil n ns)
    rw [depthOfAll] at hdepth
    omega

theorem alike_readBranches (hfuel : 4 * all.length + 1 ≤ fuel + 1 + 4 * k)
    (hroom : calls ≤ room + 2 * k + 2) (hb : b ≤ k) :
    Alike calls all k (fun ns j => k ≤ j ∧ (ns ≠ [] → k + 1 ≤ j ∧ b + depthOfAll ns + 1 ≤ j))
      (readBranches f (fuel + 1) room verbose top)
      (readBranches f (fuel + 1 + 1) room verbose top) := by
  rw [readBranches, readBranches]
  refine (keeps_accept '|').bind fun bar j hbar => alike_ite (fun htrue => ?_) fun _ =>
    keeps_pure ⟨hbar.1, fun hne => absurd rfl hne⟩
  have hj := hbar.2 htrue
  refine keeps_get.bind fun s i hs => ?_
  obtain ⟨rfl, -⟩ := hs
  refine (ih.sequence (b := b + 1) (by omega) (by omega) (by simp only [depthOfAll]; omega)).bind
    fun n l hn => ?_
  refine (ih.branches (b := b) (by omega) (by omega) (by omega)).bind fun ns l' hns => ?_
  refine keeps_pure ⟨by omega, fun _ => ⟨by omega, ?_⟩⟩
  rw [depthOfAll]
  cases ns with
  | nil =>
    rw [depthOfAll]
    omega
  | cons n' ns =>
    have hmore := hns.2 (List.cons_ne_nil n' ns)
    omega

theorem builds_readGroupBody (hfuel : 4 * all.length + 3 ≤ fuel + 1 + 4 * k)
    (hroom : calls ≤ room + 2 * k) (hb : b ≤ k) :
    Builds calls all k b (readGroupBody f (fuel + 1) room start verbose)
      (readGroupBody f (fuel + 1 + 1) room start verbose) := by
  rw [readGroupBody, readGroupBody]
  refine alike_of_le fun hle => ?_
  refine (alike_within (fun _ => by omega) fun hleft =>
    ih.choice (b := b) (by omega) (by omega) hb).bind fun body j hbody => ?_
  exact (stays_readGroupEnd start).bind fun _ i hi => keeps_pure ⟨by omega, by omega⟩

theorem builds_readCapture {name : Option (List Char)}
    (hfuel : 4 * all.length + 4 ≤ fuel + 1 + 4 * k) (hroom : calls ≤ room + 2 * k)
    (hb : b < k) :
    Builds calls all k b (readCapture f (fuel + 1) room start verbose name)
      (readCapture f (fuel + 1 + 1) room start verbose name) := by
  rw [readCapture, readCapture]
  refine (stays_openGroup name).bind fun n j hj => ?_
  refine (ih.body (b := k) (by omega) (by omega) (by omega)).bind fun body i hbody => ?_
  -- the marks of the body pay for finding its width, too
  have hdepth := widthDepth_le_depth body
  refine alike_of_le fun hle => ?_
  refine (alike_within (fun _ => by omega) fun _ => stays_closeGroup n body).bind fun _ l hl =>
    keeps_pure ⟨by omega, ?_⟩
  rw [Node.depth]
  omega

theorem builds_readBehind {negated : Bool} (hfuel : 4 * all.length + 4 ≤ fuel + 1 + 4 * k)
    (hroom : calls ≤ room + 2 * k) (hb : b < k) :
    Builds calls all k b (readBehind f (fuel + 1) room start verbose negated)
      (readBehind f (fuel + 1 + 1) room start verbose negated) := by
  rw [readBehind, readBehind]
  refine stays_beginBehind.bind fun outer j hj => ?_
  refine (ih.body (b := b + 1) (by omega) (by omega) (by omega)).bind fun body i hbody => ?_
  -- a look behind is as deep as what it looks for, and one group more is paid for by its mark
  refine (stays_endBehind outer).bind fun _ l hl => keeps_get.bind fun s l' hs => ?_
  obtain ⟨rfl, -⟩ := hs
  refine keeps_pure ⟨by omega, ?_⟩
  rw [Node.depth]
  omega

theorem builds_readConditional (hfuel : 4 * all.length + 2 ≤ fuel + 1 + 4 * k)
    (hroom : calls ≤ room + 2 * k) (hb : b < k) :
    Builds calls all k b (readConditional f (fuel + 1) room start verbose)
      (readConditional f (fuel + 1 + 1) room start verbose) := by
  -- either branch is read from the same calls, with one group open
  have hbranch : ∀ {j}, k ≤ j → Builds calls all j (b + 1)
      (within room 1 fun left => readSequence f fuel left verbose false [])
      (within room 1 fun left => readSequence f (fuel + 1) left verbose false []) := by
    intro j hj
    refine alike_of_le fun hle => alike_within (fun _ => by omega) fun hleft => ?_
    exact ih.sequence (by omega) (by omega) (by rw [depthOfAll]; omega)
  rw [readConditional, readConditional]
  refine (stays_takeName _ _).bind fun name j hj => ?_
  refine (stays_conditionGroup name).bind fun n i hi => ?_
  refine (stays_checkBehind n).bind fun _ l hl => ?_
  refine (hbranch (by omega)).bind fun yes l₁ hyes => ?_
  refine (keeps_accept '|').bind fun bar l₂ hbar => ?_
  have hnothing : Builds calls all l₂ (b + 1) (pure (.sequence [])) (pure (.sequence [])) :=
    keeps_pure ⟨Nat.le_refl _, by simp only [Node.depth, depthOfAll]; omega⟩
  refine alike_either (hbranch (by omega)) hnothing fun no l₃ hno => ?_
  refine keeps_peek.bind fun m l₄ hm => alike_check (fun _ => keeps_malformed _ _) fun _ => ?_
  refine (stays_readGroupEnd start).bind fun _ l₅ hl₅ => keeps_pure ⟨by omega, ?_⟩
  rw [Node.depth]
  omega

/-- The rest of a sequence, once a mark of it has been taken. Going on costs no mark, so it is
    enough that the nodes so far are paid for. -/
theorem alike_readSequence_of_lt (hfuel : 4 * all.length + 1 ≤ fuel + 1 + 4 * k)
    (hroom : calls ≤ room + 2 * k + 2) {j : Nat} {acc : List Node} (hj : k + 1 ≤ j)
    (hacc : b + depthOfAll acc ≤ j) :
    Alike calls all j (fun n i => k ≤ i ∧ b + n.depth ≤ i)
      (readSequence f fuel room verbose atStart acc)
      (readSequence f (fuel + 1) room verbose atStart acc) :=
  (ih.sequence (by omega) (by omega) hacc).imp fun n i h => ⟨by omega, h.2⟩

/-- A group of some kind, and the rest of the sequence behind it. -/
theorem alike_group_readSequence (hfuel : 4 * all.length + 1 ≤ fuel + 1 + 4 * k)
    (hroom : calls ≤ room + 2 * k + 2) {j : Nat} {x x' : Reader Node}
    (hx : Builds calls all j b x x') (hj : k + 1 ≤ j) (hacc : b + depthOfAll acc ≤ k) :
    Alike calls all j (fun n i => k ≤ i ∧ b + n.depth ≤ i)
      (x >>= fun n => readSequence f fuel room verbose atStart (n :: acc))
      (x' >>= fun n => readSequence f (fuel + 1) room verbose atStart (n :: acc)) := by
  refine hx.bind fun n i hn => ?_
  exact alike_readSequence_of_lt ih hfuel hroom (by omega) (by rw [depthOfAll]; omega)

/-- The body of a group, and the rest of the sequence behind the group. -/
theorem alike_body_readSequence {wrap : Node → Node} (hwrap : ∀ n, (wrap n).depth = n.depth + 1)
    (hfuel : 4 * all.length + 1 ≤ fuel + 1 + 4 * k) (hroom : calls ≤ room + 2 * k) {j : Nat}
    {inner : Bool} (hj : k + 1 ≤ j) (hacc : b + depthOfAll acc < k) :
    Alike calls all j (fun n i => k ≤ i ∧ b + n.depth ≤ i)
      (readGroupBody f fuel room start inner >>= fun n =>
        readSequence f fuel room verbose atStart (wrap n :: acc))
      (readGroupBody f (fuel + 1) room start inner >>= fun n =>
        readSequence f (fuel + 1) room verbose atStart (wrap n :: acc)) := by
  refine (ih.body (b := b + 1) (by omega) (by omega) (by omega)).bind fun n i hn => ?_
  refine alike_readSequence_of_lt ih hfuel (by omega) (by omega) ?_
  rw [depthOfAll, hwrap]
  omega

theorem builds_readSequence (hfuel : 4 * all.length + 1 ≤ fuel + 1 + 4 * k)
    (hroom : calls ≤ room + 2 * k + 2) (hb : b + depthOfAll acc ≤ k) :
    Builds calls all k b (readSequence f (fuel + 1) room verbose atStart acc)
      (readSequence f (fuel + 1 + 1) room verbose atStart acc) := by
  have hgo : ∀ {j acc}, k + 1 ≤ j → b + depthOfAll acc ≤ j →
      Alike calls all j (fun n i => k ≤ i ∧ b + n.depth ≤ i)
        (readSequence f fuel room verbose atStart acc)
        (readSequence f (fuel + 1) room verbose atStart acc) :=
    alike_readSequence_of_lt ih hfuel hroom
  have hsimple : ∀ {j n}, k + 1 ≤ j → n.depth = 0 →
      Alike calls all j (fun n i => k ≤ i ∧ b + n.depth ≤ i)
        (readSequence f fuel room verbose atStart (n :: acc))
        (readSequence f (fuel + 1) room verbose atStart (n :: acc)) := by
    intro j n hj hn
    exact hgo hj (by rw [depthOfAll, hn]; omega)
  have hrepeat : ∀ {j} start bounds, k + 1 ≤ j →
      Alike calls all j (fun n i => k ≤ i ∧ b + n.depth ≤ i)
        (repeatLast start bounds acc >>= readSequence f fuel room verbose atStart)
        (repeatLast start bounds acc >>= readSequence f (fuel + 1) room verbose atStart) := by
    intro j start bounds hj
    exact (keeps_repeatLast (b := b) (by omega)).bind fun ns i hns => hgo (by omega) (by omega)
  rw [readSequence, readSequence]
  refine keeps_get.bind fun s j hs => ?_
  obtain ⟨rfl, -⟩ := hs
  refine keeps_takeMark.bind fun m i hm => ?_
  cases m with
  | none =>
    have hdepth := depth_sequence_le acc
    obtain rfl := hm
    exact keeps_pure ⟨Nat.le_refl _, by omega⟩
  | some m =>
    obtain ⟨hmark, rfl⟩ := hm
    cases m with
    | escaped c =>
      exact (simply_readEscape hmark).bind fun n i hn => hsimple (by omega) hn.1
    | plain c =>
      -- blanks and comments
      refine alike_ite (fun _ => hgo (by omega) (by omega)) fun _ => ?_
      refine alike_ite (fun _ => ?_) fun _ => ?_
      · exact (stays_skipPast '\n').bind fun _ i hi => hgo hi (by omega)
      -- classes and single characters
      refine alike_ite (fun _ => ?_) fun _ => ?_
      · exact (simply_readClass _ _).bind fun n i hn => hsimple hn.2 hn.1
      refine alike_ite (fun _ => hsimple (Nat.le_refl _) rfl) fun _ => ?_
      refine alike_ite (fun _ => hsimple (Nat.le_refl _) rfl) fun _ => ?_
      refine alike_ite (fun _ => hsimple (Nat.le_refl _) rfl) fun _ => ?_
      -- repetitions
      refine alike_ite (fun _ => hrepeat _ _ (Nat.le_refl _)) fun _ => ?_
      refine alike_ite (fun _ => hrepeat _ _ (Nat.le_refl _)) fun _ => ?_
      refine alike_ite (fun _ => hrepeat _ _ (Nat.le_refl _)) fun _ => ?_
      refine alike_ite (fun _ => stays_readBounds.bind fun bounds i hi => ?_) fun _ => ?_
      · cases bounds with
        | none => exact hsimple hi rfl
        | some bounds => exact hrepeat _ bounds hi
      -- groups
      refine alike_ite (fun _ => ?_) fun _ => hsimple (Nat.le_refl _) rfl
      refine (keeps_accept '?').bind fun mark i hi => alike_ite (fun hmark => ?_) fun _ => ?_
      · have htaken := hi.2 hmark
        exact (ih.extension (by omega) (by omega) (by omega)).imp fun n l hn => ⟨by omega, hn.2⟩
      · exact alike_group_readSequence ih hfuel hroom
          (ih.capture (by omega) (by omega) (by omega)) hi.1 hb

theorem builds_readExtension (hfuel : 4 * all.length + 1 ≤ fuel + 1 + 4 * k)
    (hroom : calls ≤ room + 2 * k) (hb : b + depthOfAll acc < k) :
    Builds calls all k b (readExtension f (fuel + 1) room start verbose atStart acc)
      (readExtension f (fuel + 1 + 1) room start verbose atStart acc) := by
  have hgo : ∀ {j acc}, k + 1 ≤ j → b + depthOfAll acc ≤ j →
      Alike calls all j (fun n i => k ≤ i ∧ b + n.depth ≤ i)
        (readSequence f fuel room verbose atStart acc)
        (readSequence f (fuel + 1) room verbose atStart acc) :=
    alike_readSequence_of_lt ih hfuel (by omega)
  have hgroup : ∀ {j} {x x' : Reader Node}, k + 1 ≤ j → Builds calls all j b x x' →
      Alike calls all j (fun n i => k ≤ i ∧ b + n.depth ≤ i)
        (x >>= fun n => readSequence f fuel room verbose atStart (n :: acc))
        (x' >>= fun n => readSequence f (fuel + 1) room verbose atStart (n :: acc)) :=
    fun hj hx => alike_group_readSequence ih hfuel (by omega) hx hj hb.le
  rw [readExtension, readExtension]
  refine keeps_next.bind fun m j hm => ?_
  cases m with
  | none => exact keeps_malformed _ _
  | some m =>
    obtain ⟨hmark, rfl⟩ := hm
    cases m with
    | escaped c => exact keeps_malformedAt _ _
    | plain c =>
      refine alike_ite (fun _ => ?_) fun _ => ?_
      · -- a group with a name, or a reference to one
        refine (keeps_accept '<').bind fun named i hi => alike_ite (fun _ => ?_) fun _ => ?_
        · refine (stays_takeName _ _).bind fun name l hl => ?_
          refine (stays_checkGroupName name).bind fun _ l' hl' => ?_
          exact hgroup (by omega) (ih.capture (by omega) (by omega) (by omega))
        · refine (keeps_accept '=').bind fun again l hl => alike_ite (fun _ => ?_) fun _ => ?_
          · refine simply_readNamedReference.bind fun n l' hn => ?_
            exact hgo (by omega) (by rw [depthOfAll, hn.1]; omega)
          · refine keeps_next.bind fun m' l' hm' => ?_
            cases m' with
            | none => exact keeps_malformed _ _
            | some m' => exact keeps_malformedAt _ _
      -- groups without a name, comments, and looks ahead
      refine alike_ite (fun _ => ?_) fun _ => ?_
      · exact alike_body_readSequence ih (fun n => by rw [Node.depth]) hfuel hroom (Nat.le_refl _)
          hb
      refine alike_ite (fun _ => ?_) fun _ => ?_
      · refine (stays_skipPast ')').bind fun closed i hi => alike_ite (fun _ => ?_) fun _ => ?_
        · exact hgo hi (by omega)
        · exact keeps_malformedAt _ _
      refine alike_ite (fun _ => ?_) fun _ => ?_
      · exact alike_body_readSequence ih (fun n => by rw [Node.depth]) hfuel hroom (Nat.le_refl _)
          hb
      refine alike_ite (fun _ => ?_) fun _ => ?_
      · exact alike_body_readSequence ih (fun n => by rw [Node.depth]) hfuel hroom (Nat.le_refl _)
          hb
      refine alike_ite (fun _ => ?_) fun _ => ?_
      · -- a look behind, negated or not
        refine keeps_next.bind fun m' i hm' => ?_
        have hle := hm'.le
        cases m' with
        | none => exact keeps_malformed _ _
        | some m' =>
          refine alike_ite (fun _ => ?_) fun _ => alike_ite (fun _ => ?_) fun _ => ?_
          · exact hgroup (by omega) (ih.behind (by omega) (by omega) (by omega))
          · exact hgroup (by omega) (ih.behind (by omega) (by omega) (by omega))
          · exact keeps_malformedAt _ _
      refine alike_ite (fun _ => ?_) fun _ => ?_
      · exact hgroup (by omega) (ih.conditional (by omega) (by omega) (by omega))
      refine alike_ite (fun _ => ?_) fun _ => ?_
      · exact alike_body_readSequence ih (fun n => by rw [Node.depth]) hfuel hroom (Nat.le_refl _)
          hb
      refine alike_ite (fun _ => ?_) fun _ => keeps_malformedAt _ _
      · -- options of the whole pattern or of a group
        have hmem : .plain c ∈ all := List.mem_of_getElem? hmark
        refine (stays_readGroupOptions hmem).bind fun change i hi => ?_
        cases change with
        | none =>
          refine alike_check (fun _ => keeps_malformedAt _ _) fun _ => ?_
          refine keeps_get.bind fun s l hs => ?_
          obtain ⟨rfl, -⟩ := hs
          refine (ih.sequence (by omega) (by omega) ?_).imp fun n l' hn => ⟨by omega, hn.2⟩
          omega
        | some change =>
          exact alike_body_readSequence ih (fun n => by rw [Node.depth]) hfuel hroom hi hb

end Parts

/-- **Every part of the reader** does the same with one unit of fuel more. -/
theorem parts (f : Facilities) (calls : Nat) (all : List Mark) (fuel : Nat) :
    Parts f calls all fuel := by
  induction fuel with
  | zero =>
    -- no part can be at a place of the text for which it needs no fuel
    exact {
      choice := fun hfuel _ _ => alike_of_le fun hle => absurd hfuel (by omega)
      branches := fun hfuel _ _ => alike_of_le fun hle => absurd hfuel (by omega)
      sequence := fun hfuel _ _ => alike_of_le fun hle => absurd hfuel (by omega)
      body := fun hfuel _ _ => alike_of_le fun hle => absurd hfuel (by omega)
      capture := fun hfuel _ _ => alike_of_le fun hle => absurd hfuel (by omega)
      behind := fun hfuel _ _ => alike_of_le fun hle => absurd hfuel (by omega)
      conditional := fun hfuel _ _ => alike_of_le fun hle => absurd hfuel (by omega)
      extension := fun hfuel _ _ => alike_of_le fun hle => absurd hfuel (by omega) }
  | succ fuel ih =>
    exact {
      choice := builds_readChoice ih
      branches := alike_readBranches ih
      sequence := builds_readSequence ih
      body := builds_readGroupBody ih
      capture := builds_readCapture ih
      behind := builds_readBehind ih
      conditional := builds_readConditional ih
      extension := builds_readExtension ih }

/-! ## The whole pattern -/

theorem within_ofText (t : List Char) : Within (marks t) 0 (.ofText t) :=
  ⟨rfl, Nat.zero_le _, chosenIn_none rfl, nofun⟩

/-- **Fuel never runs out:** where there is enough of it for what is left of a text, more of it
    changes nothing. -/
theorem readChoice_of_enough {s : Reading} {n m : Nat} (hs : Within all 0 s)
    (hn : 4 * all.length + 2 ≤ n) (hm : n ≤ m) :
    (readChoice f n room verbose top).run s = (readChoice f m room verbose top).run s := by
  -- on the fuel above what is enough: each unit does what the one before it did
  induction m, hm using Nat.le_induction with
  | base => rfl
  | succ m hm ih =>
    have hone : Builds (room + 2) all 0 0 (readChoice f m room verbose top)
        (readChoice f (m + 1) room verbose top) :=
      (parts f (room + 2) all m).choice (by omega) (by omega) (Nat.le_refl 0)
    exact ih.trans (hone s hs).1

/-! ## What the text shows -/

/-- The marks of a text are its characters, but for a backslash at its end. -/
theorem charsOf_marks_isPrefix (t : List Char) : charsOf (marks t) <+: t := by
  fun_induction marks t with
  | case1 => exact List.nil_prefix
  | case2 => exact List.nil_prefix
  | case3 c rest ih =>
    rw [charsOf, List.flatMap_cons]
    exact (List.prefix_append_right_inj _).2 ih
  | case4 c rest h1 h2 ih =>
    rw [charsOf, List.flatMap_cons]
    exact (List.prefix_append_right_inj _).2 ih

theorem length_marks_le (t : List Char) : (marks t).length ≤ t.length := by
  fun_induction marks t with
  | case1 => exact Nat.le_refl 0
  | case2 => exact Nat.zero_le _
  | case3 c rest ih =>
    simp only [List.length_cons]
    omega
  | case4 c rest h1 h2 ih => exact Nat.succ_le_succ ih

/-- Marks that stand in a text one after the other are characters that do. -/
theorem charsOf_isInfix {t : List Char} {ms : List Mark} (h : ms <:+: marks t) :
    charsOf ms <:+: t := by
  obtain ⟨before, after, hsplit⟩ := h
  have hinside : charsOf ms <:+: charsOf (marks t) := by
    refine ⟨charsOf before, charsOf after, ?_⟩
    rw [← hsplit]
    simp [charsOf]
  exact hinside.trans (charsOf_marks_isPrefix t).isInfix

theorem charsOf_plain (cs : List Char) : charsOf (cs.map .plain) = cs := by
  simp [charsOf, Mark.chars, List.flatMap_map]

theorem mem_of_plain_mem {t : List Char} {c : Char} (h : .plain c ∈ marks t) : c ∈ t :=
  (charsOf_marks_isPrefix t).subset (List.mem_flatMap.2 ⟨_, h, List.mem_singleton_self c⟩)

/-- What a text shows of an error that is no matter of the syntax, where some number of calls may be
    open at the same time. -/
inductive ShownBy (calls : Nat) (t : List Char) : PatternError → Prop
  /-- A run of digits writes a number that is too large. -/
  | repetition (ds : List Char) (hrun : ds <:+: t) (hdigits : ∀ d ∈ ds, isDecimalDigit d = true)
      (hlarge : repetitionLimit ≤ numberIn 10 ds) : ShownBy calls t .repetitionTooLarge
  /-- A run of digits is longer than any that is read. -/
  | digits (ds : List Char) (hrun : ds <:+: t) (hdigits : ∀ d ∈ ds, isDecimalDigit d = true)
      (hmany : digitLimit < ds.length) : ShownBy calls t (.tooManyDigits ds.length)
  /-- Eight digits behind a backslash and a letter write a number that is too large. -/
  | character (ds : List Char) (hrun : '\\' :: 'U' :: ds <:+: t) (hcount : ds.length = 8)
      (hdigits : ∀ d ∈ ds, isHex d = true) (hlarge : characterLimit ≤ numberIn 16 ds) :
      ShownBy calls t .characterTooLarge
  /-- The letters of both alphabets are there. -/
  | alphabets (hletters : ∀ a : Alphabet, a.letter ∈ t) : ShownBy calls t .alphabetsConflict
  /-- There are half as many characters as calls, at least. -/
  | nested (hlong : calls < 2 * t.length + 2) : ShownBy calls t .nestedTooDeep

/-- What the marks of a text show is shown by the text. -/
theorem FaultIn.shown {t : List Char} {e : PatternError} (h : FaultIn calls (marks t) e) :
    e.isMalformed = true ∨ ShownBy calls t e := by
  cases h with
  | malformed flaw position => exact .inl rfl
  | repetition ds hrun hlarge =>
    have hstands := charsOf_isInfix hrun.1
    rw [charsOf_plain] at hstands
    exact .inr (.repetition ds hstands hrun.2 hlarge)
  | digits ds hrun hmany =>
    have hstands := charsOf_isInfix hrun.1
    rw [charsOf_plain] at hstands
    exact .inr (.digits ds hstands hrun.2 hmany)
  | character ds hrun hcount hdigits hlarge =>
    have hchars : charsOf (.escaped 'U' :: ds.map .plain) = '\\' :: 'U' :: ds :=
      congrArg (fun cs => '\\' :: 'U' :: cs) (charsOf_plain ds)
    have hstands := charsOf_isInfix hrun
    rw [hchars] at hstands
    exact .inr (.character ds hstands hcount hdigits hlarge)
  | nested hfew =>
    have hlength := length_marks_le t
    exact .inr (.nested (by omega))

/-- Reading a whole text gives a node that is no deeper than the text is long, and otherwise an
    error that the text shows. -/
theorem keeps_readWhole (f : Facilities) (t : List Char) :
    Keeps f.room (marks t) 0 (fun n j => n.depth ≤ j) (readWhole f) := by
  unfold readWhole
  refine (keeps_skip 0).bind fun _ j hj => keeps_get.bind fun s i hs => ?_
  obtain ⟨rfl, hs⟩ := hs
  obtain rfl : i = 0 := by omega
  have hlength : s.rest.length = (marks t).length := by rw [hs.rest, List.drop_zero]
  refine alike_within (fun hfew => by omega) fun hroom => ?_
  have hchoice : Builds f.room (marks t) 0 0
      (readChoice f (4 * s.rest.length + 4) (f.room - 2) false true)
      (readChoice f (4 * s.rest.length + 4 + 1) (f.room - 2) false true) :=
    (parts f f.room (marks t) _).choice (by omega) (by omega) (Nat.le_refl 0)
  exact hchoice.left.imp fun n j h => by omega

/-- The whole of what has been read is malformed, or the text shows what else is wrong with it. -/
theorem shown_of_wholeError? {t : List Char} {j : Nat} {node : Node} {s : Reading}
    {e : PatternError} (hs : Within (marks t) j s) (hdepth : node.depth ≤ j)
    (h : wholeError? f node s = some e) :
    e.isMalformed = true ∨ ShownBy f.room t e := by
  unfold wholeError? at h
  split at h
  · next hconflict =>
    cases h
    exact .inr (.alphabets fun a => mem_of_plain_mem (hs.conflict hconflict a))
  · split at h
    · cases h
      exact .inl rfl
    · split at h
      · cases h
        exact .inl rfl
      · -- as deep as the node is, the text is long
        have hexplained : Explained f.room node.depth e := by
          split at h
          · next hfew =>
            cases h
            exact .inr ⟨rfl, Nat.lt_of_lt_of_le hfew (widthDepth_le_depth node)⟩
          · exact explained_of_fault? node h
        rcases hexplained with hmalformed | ⟨rfl, hlt⟩
        · exact .inl hmalformed
        · have hlength := length_marks_le t
          have hle := hs.le
          exact .inr (.nested (by omega))

/-- **What is wrong with a text that is no pattern:** it is malformed, or it shows what else is
    wrong with it. -/
theorem shown_of_compile {source : String} {e : PatternError} (h : compile f source = .error e) :
    e.isMalformed = true ∨ ShownBy f.room source.toList e := by
  obtain ⟨-, hok, herror⟩ := keeps_readWhole f source.toList _ (within_ofText source.toList)
  unfold compile at h
  cases hrun : (readWhole f).run (.ofText source.toList) with
  | error e' =>
    rw [hrun] at h
    cases h
    exact (herror e hrun).shown
  | ok p =>
    obtain ⟨node, s⟩ := p
    obtain ⟨j, hdepth, hwithin⟩ := hok node s hrun
    have hpure : (.ok (node, s) : Except PatternError (Node × Reading)) = pure (node, s) := rfl
    rw [hrun, hpure, pure_bind] at h
    dsimp only at h
    split at h
    · next e' hwhole =>
      cases h
      exact shown_of_wholeError? hwithin hdepth hwhole
    · cases h

end SourceCensus.Pattern
