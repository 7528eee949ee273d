import SourceCensus.Pattern.Compile

/-! # How deep nodes are

    The depth of a node limits the calls that are needed to find its width (`widthDepth_le_depth`)
    and to go through it (`explained_of_fault?`). The depth of several nodes is that of the
    deepest one (`depthOfAll_le_iff`). Taking apart what a sequence or a plain group holds makes
    nothing deeper, and a choice is by one deeper than its branches, however they are rearranged
    (`depth_choiceNode_le`).
-/

namespace SourceCensus.Pattern

mutual

/-- How many bodies lie around the innermost parts of a node. The body of a repetition is one of
    them, unless it is a group that is nothing but its body. -/
def Node.depth : Node → Nat
  | .group _ _ _ body => body.depth + 1
  | .atomic body => body.depth + 1
  | .lookAhead _ body => body.depth + 1
  | .lookBehind _ _ body => body.depth + 1
  | .conditional _ yes no => max yes.depth no.depth + 1
  | .repeated _ _ _ body => if body.plainBody?.isSome then body.depth else body.depth + 1
  | .sequence items => depthOfAll items
  | .choice branches => depthOfAll branches + 1
  | _ => 0

/-- The greatest depth of several nodes. -/
def depthOfAll : List Node → Nat
  | [] => 0
  | n :: ns => max n.depth (depthOfAll ns)

end

variable {d : Nat} {n : Node} {ns : List Node} {branches : List (List Node)}

/-! ## Calls -/

mutual

theorem widthDepth_le_depth : (n : Node) → n.widthDepth ≤ n.depth
  | .group capture on off body => by
    have hbody := widthDepth_le_depth body
    rw [Node.widthDepth, Node.depth]
    split <;> omega
  | .atomic body => Nat.succ_le_succ (widthDepth_le_depth body)
  | .conditional group yes no => by
    have hyes := widthDepth_le_depth yes
    have hno := widthDepth_le_depth no
    rw [Node.widthDepth, Node.depth]
    omega
  | .repeated greed least most body => by
    have hbody := widthDepth_le_depth body
    rw [Node.widthDepth, Node.depth]
    split <;> omega
  | .sequence items => widthDepthOfAll_le_depthOfAll items
  | .choice branches => Nat.succ_le_succ (widthDepthOfAll_le_depthOfAll branches)
  | .one .. | .any | .oneOf .. | .anchor .. | .reference .. => Nat.le_refl 0
  | .lookAhead .. | .lookBehind .. => Nat.zero_le _

theorem widthDepthOfAll_le_depthOfAll : (ns : List Node) → widthDepthOfAll ns ≤ depthOfAll ns
  | [] => Nat.le_refl 0
  | n :: ns => by
    have hn := widthDepth_le_depth n
    have hns := widthDepthOfAll_le_depthOfAll ns
    rw [widthDepthOfAll, depthOfAll]
    omega

end

/-- An error is one of the syntax, or there are fewer calls than bodies. -/
def Explained (room depth : Nat) (e : PatternError) : Prop :=
  e.isMalformed = true ∨ e = .nestedTooDeep ∧ room < depth

section Explained

variable {room d' : Nat} {e : PatternError} {template : Bool}

theorem Explained.mono (h : Explained room d e) (hle : d ≤ d') : Explained room d' e :=
  h.imp_right fun hnested => ⟨hnested.1, Nat.lt_of_lt_of_le hnested.2 hle⟩

theorem explained_inside {x : Nat → Option PatternError}
    (hx : ∀ left, x left = some e → Explained left d e) (h : inside room x = some e) :
    Explained room (d + 1) e := by
  unfold inside at h
  split at h
  · next hnone =>
    cases h
    exact .inr ⟨rfl, by omega⟩
  · exact (hx _ h).imp_right fun hnested => ⟨hnested.1, by omega⟩

theorem explained_orElse {x y : Option PatternError} (hx : x = some e → Explained room d e)
    (hy : y = some e → Explained room d e) (h : (x <|> y) = some e) : Explained room d e := by
  rw [Option.orElse_eq_orElse, Option.orElse_eq_or] at h
  rcases Option.or_eq_some_iff.1 h with h | ⟨-, h⟩
  · exact hx h
  · exact hy h

mutual

/-- **What is found wrong on the way through a node** is explained by its depth. -/
theorem explained_of_fault? : (n : Node) → ∀ {room}, n.fault? template room = some e →
    Explained room n.depth e
  | .group _ _ _ body, _, h => explained_inside (fun _ => explained_of_fault? body) h
  | .atomic body, _, h => explained_inside (fun _ => explained_of_fault? body) h
  | .lookAhead _ body, _, h => explained_inside (fun _ => explained_of_fault? body) h
  | .lookBehind _ width body, _, h => by
    refine explained_inside (fun left h => ?_) h
    -- the width is asked for before the body is gone through
    split at h
    · next hfew =>
      cases h
      exact .inr ⟨rfl, Nat.lt_of_lt_of_le hfew (widthDepth_le_depth body)⟩
    · refine explained_orElse (fun h => ?_) (explained_of_fault? body) h
      obtain ⟨flaw, -, rfl⟩ := Option.map_eq_some_iff.1 h
      exact .inl rfl
  | .conditional _ yes no, _, h => by
    refine explained_inside (fun left h => explained_orElse (fun h => ?_) (fun h => ?_) h) h
    · exact (explained_of_fault? yes h).mono (Nat.le_max_left _ _)
    · exact (explained_of_fault? no h).mono (Nat.le_max_right _ _)
  | .repeated greed _ _ body, room, h => by
    rw [Node.fault?] at h
    rw [Node.depth]
    split at h
    · cases h
      exact .inl rfl
    · split at h
      · next hplain =>
        rw [if_pos hplain]
        exact explained_of_fault? body h
      · next hplain =>
        rw [if_neg hplain]
        exact explained_inside (fun _ => explained_of_fault? body) h
  | .sequence items, _, h => explained_of_firstFault? items h
  | .choice branches, _, h => explained_inside (fun _ => explained_of_firstFault? branches) h
  | .one .., _, h | .any, _, h | .oneOf .., _, h | .anchor .., _, h | .reference .., _, h => by
    cases h

theorem explained_of_firstFault? : (ns : List Node) → ∀ {room},
    firstFault? template ns room = some e → Explained room (depthOfAll ns) e
  | [], _, h => by cases h
  | n :: ns, _, h => by
    refine explained_orElse (fun h => ?_) (fun h => ?_) h
    · exact (explained_of_fault? n h).mono (Nat.le_max_left _ _)
    · exact (explained_of_firstFault? ns h).mono (Nat.le_max_right _ _)

end

end Explained

/-! ## Several nodes -/

theorem depthOfAll_le_iff : depthOfAll ns ≤ d ↔ ∀ n ∈ ns, n.depth ≤ d := by
  induction ns with
  | nil => simp [depthOfAll]
  | cons n ns ih => rw [depthOfAll, Nat.max_le, ih, List.forall_mem_cons]

theorem depth_le_of_mem (h : n ∈ ns) : n.depth ≤ depthOfAll ns :=
  depthOfAll_le_iff.1 (Nat.le_refl _) n h

/-! ## Parts of a sequence -/

theorem depthOfAll_sequenceItems (n : Node) : depthOfAll (sequenceItems n) = n.depth := by
  unfold sequenceItems
  split
  · rw [Node.depth]
  · simp [depthOfAll]

theorem depthOfAll_unwrapped_le (n : Node) : depthOfAll (unwrapped n) ≤ n.depth := by
  unfold unwrapped
  split
  · next body hbody =>
    unfold Node.plainBody? at hbody
    split at hbody
    · split at hbody
      · cases hbody
        rw [depthOfAll_sequenceItems, Node.depth]
        exact Nat.le_succ _
      · cases hbody
    · cases hbody
  · simp [depthOfAll]

/-- The nodes of a sequence, which were read last first, make a node that is no deeper. -/
theorem depth_sequence_le (acc : List Node) :
    (Node.sequence (acc.reverse.flatMap unwrapped)).depth ≤ depthOfAll acc := by
  rw [Node.depth, depthOfAll_le_iff]
  intro n hn
  obtain ⟨m, hm, hn⟩ := List.mem_flatMap.1 hn
  have hm : m ∈ acc := List.mem_reverse.1 hm
  exact Nat.le_trans (depth_le_of_mem hn)
    (Nat.le_trans (depthOfAll_unwrapped_le m) (depth_le_of_mem hm))

/-! ## Choices -/

theorem mem_of_commonFirst? (h : commonFirst? branches = some n) :
    ∃ items ∈ branches, n ∈ items := by
  unfold commonFirst? at h
  split at h
  · split at h
    · split at h
      · cases h
        exact ⟨_, List.mem_cons_self, List.mem_cons_self⟩
      · cases h
    · cases h
  · cases h

/-- What stands before a choice and what stays in its branches comes from the branches. -/
theorem depth_splitCommon_le (fuel : Nat) (h : ∀ items ∈ branches, depthOfAll items ≤ d) :
    depthOfAll (splitCommon fuel branches).1 ≤ d ∧
      ∀ items ∈ (splitCommon fuel branches).2, depthOfAll items ≤ d := by
  induction fuel generalizing branches with
  | zero => exact ⟨Nat.zero_le d, h⟩
  | succ fuel ih =>
    rw [splitCommon]
    cases hfirst : commonFirst? branches with
    | none => exact ⟨Nat.zero_le d, h⟩
    | some n =>
      have htails : ∀ items ∈ branches.map List.tail, depthOfAll items ≤ d := by
        intro items hitems
        obtain ⟨whole, hwhole, rfl⟩ := List.mem_map.1 hitems
        exact depthOfAll_le_iff.2 fun m hm =>
          depthOfAll_le_iff.1 (h whole hwhole) m (List.mem_of_mem_tail hm)
      obtain ⟨hlead, hrests⟩ := ih htails
      obtain ⟨items, hitems, hn⟩ := mem_of_commonFirst? hfirst
      refine ⟨?_, hrests⟩
      show depthOfAll (n :: _) ≤ d
      rw [depthOfAll, Nat.max_le]
      exact ⟨depthOfAll_le_iff.1 (h items hitems) n hn, hlead⟩

theorem choiceNode_singleton (n : Node) : choiceNode [n] = n := rfl

/-- **A choice is by one deeper than its branches,** at most. -/
theorem depth_choiceNode_le (ns : List Node) : (choiceNode ns).depth ≤ depthOfAll ns + 1 := by
  have hitems : ∀ items ∈ ns.map sequenceItems, depthOfAll items ≤ depthOfAll ns := by
    intro items h
    obtain ⟨n, hn, rfl⟩ := List.mem_map.1 h
    rw [depthOfAll_sequenceItems]
    exact depth_le_of_mem hn
  unfold choiceNode
  split
  · next n => exact Nat.le_succ_of_le (depth_le_of_mem (List.mem_singleton_self n))
  · obtain ⟨hlead, hrests⟩ := depth_splitCommon_le (ns.map sequenceItems).flatten.length hitems
    dsimp only
    split
    · rw [Node.depth, depthOfAll_le_iff]
      intro m hm
      rcases List.mem_append.1 hm with hm | hm
      · exact Nat.le_succ_of_le (depthOfAll_le_iff.1 hlead m hm)
      · rw [List.mem_singleton.1 hm]
        exact Nat.zero_le _
    · rw [Node.depth, depthOfAll_le_iff]
      intro m hm
      rcases List.mem_append.1 hm with hm | hm
      · exact Nat.le_succ_of_le (depthOfAll_le_iff.1 hlead m hm)
      · rw [List.mem_singleton.1 hm, Node.depth]
        refine Nat.succ_le_succ (depthOfAll_le_iff.2 fun m hm => ?_)
        obtain ⟨items, hitems, rfl⟩ := List.mem_map.1 hm
        rw [Node.depth]
        exact hrests items hitems

end SourceCensus.Pattern
