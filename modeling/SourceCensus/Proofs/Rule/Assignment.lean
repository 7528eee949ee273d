import SourceCensus.Proofs.Classification.Kinds
import Mathlib.Data.List.Infix

/-! # Assignments and runs of operator characters

    The rule for assignments looks at one place: an operator that assigns, no operator character
    before it, and neither an equals nor a greater sign behind it. Here it is compared with the
    runs of operator characters of a text.

    A match cannot begin inside a run, and it ends inside the run that it begins. So there is one
    occurrence at most in each run, and whether there is one can be read off the run alone
    (`Assigns`).

    Main result: `assignments_are_operator_runs`. The assignment tokens of a text stand for the
    runs that assign, one for each and in their order.
-/

namespace SourceCensus.Rule

variable {t rest run op : Text} {before : Option Char} {n o : Nat}

/-! ## Operators that assign -/

/-- The operators that assign. -/
def assignmentOperators : List Text :=
  [['='], ['+', '='], ['-', '='], ['*', '='], ['/', '='], ['%', '='], ['&', '='], ['|', '='],
   ['^', '='], ['<', '<', '='], ['>', '>', '='], ['?', '?', '=']]

/-- The operators with an equals sign that do not assign: the comparisons and the arrow. -/
def comparisonsAndArrow : List Text :=
  [['=', '='], ['!', '='], ['<', '='], ['>', '='], ['=', '>']]

/-- A sign that makes something else of an operator before it. -/
def carriesOn (c : Char) : Bool := c = '=' || c = '>'

/-- The run begins with an operator that assigns, and neither an equals nor a greater sign
    follows it. -/
def Assigns (run : Text) : Prop :=
  ∃ op ∈ assignmentOperators, op <+: run ∧ NoneAhead carriesOn (run.drop op.length)

instance : DecidablePred Assigns := fun run =>
  inferInstanceAs (Decidable (∃ op ∈ assignmentOperators,
    op <+: run ∧ NoneAhead carriesOn (run.drop op.length)))

theorem isOperator_of_carriesOn {c : Char} (h : carriesOn c = true) : isOperator c = true := by
  simp only [carriesOn, Bool.or_eq_true, decide_eq_true_eq] at h
  rcases h with rfl | rfl <;> decide

theorem isOperator_of_mem_assignmentOperators :
    ∀ op ∈ assignmentOperators, op ≠ [] ∧ ∀ c ∈ op, isOperator c = true := by
  have hall : assignmentOperators.all (fun op => !op.isEmpty && op.all isOperator) = true := by
    decide
  intro op hop
  have h := List.all_eq_true.1 hall op hop
  simpa using h

/-- A comparison or an arrow does not assign, however the run goes on. -/
theorem not_assigns_of_comparison {sign : Text} (hsign : sign ∈ comparisonsAndArrow)
    (hpre : sign <+: run) : ¬ Assigns run := by
  -- no operator goes on like a comparison, and where one is part of a comparison that goes on
  have hapart : ∀ sign ∈ comparisonsAndArrow, ∀ op ∈ assignmentOperators,
      ¬ sign <+: op ∧ (op <+: sign → ¬ NoneAhead carriesOn (sign.drop op.length)) := by
    decide
  intro h
  obtain ⟨op, hop, hfront, hfree⟩ := h
  obtain ⟨hlonger, hshorter⟩ := hapart sign hsign op hop
  rcases List.prefix_or_prefix_of_prefix hpre hfront with hle | hle
  · exact hlonger hle
  · apply hshorter hle
    exact hfree.of_prefix (List.IsPrefix.drop hpre op.length)

/-! ## The rule at one place -/

theorem plainEquals_iff :
    plainEquals t = true ↔ ∃ rest, t = '=' :: rest ∧ NoneAhead carriesOn rest := by
  have hfree : ∀ rest : Text, (rest.head? ≠ some '=' && rest.head? ≠ some '>') = true ↔
      NoneAhead carriesOn rest := by
    intro rest
    cases rest <;> simp [carriesOn]
  unfold plainEquals
  split
  · rename_i rest
    rw [hfree]
    simp
  · rename_i hne
    constructor
    · intro h
      cases h
    · intro h
      obtain ⟨rest, rfl, -⟩ := h
      exact absurd rfl (hne rest)

/-- What is read before the equals sign makes an operator with it. -/
theorem combinedOperator_mem (t : Text) :
    t.take (combinedOperator t) ++ ['='] ∈ assignmentOperators := by
  unfold combinedOperator
  split
  · simp [assignmentOperators]
  · simp [assignmentOperators]
  · simp [assignmentOperators]
  · rename_i c rest _ _ _
    by_cases hc : singleOperators.contains c = true
    · rw [if_pos hc]
      simp only [singleOperators, List.contains_iff_mem, List.mem_cons, List.not_mem_nil,
        or_false] at hc
      rcases hc with rfl | rfl | rfl | rfl | rfl | rfl | rfl | rfl <;>
        simp [assignmentOperators]
    · rw [if_neg hc]
      simp [assignmentOperators]
  · decide

/-- Before an operator that assigns, all of it but its equals sign is read. -/
theorem combinedOperator_append (hop : op ∈ assignmentOperators) (rest : Text) :
    combinedOperator (op ++ rest) + 1 = op.length ∧
      (op ++ rest).drop (combinedOperator (op ++ rest)) = '=' :: rest := by
  simp only [assignmentOperators, List.mem_cons, List.not_mem_nil, or_false] at hop
  rcases hop with rfl | rfl | rfl | rfl | rfl | rfl | rfl | rfl | rfl | rfl | rfl | rfl <;>
    simp [combinedOperator, singleOperators]

/-- **What the rule matches:** an operator that assigns, with nothing next to it that makes
    something else of it. -/
theorem assignment_eq_some_iff : assignment before t = some n ↔ before.any isOperator = false ∧
    ∃ op ∈ assignmentOperators, ∃ rest, t = op ++ rest ∧ NoneAhead carriesOn rest ∧
      n = op.length := by
  unfold assignment
  by_cases hbefore : before.any isOperator = true
  · simp [hbefore]
  · rw [if_neg hbefore]
    simp only [Option.ite_none_right_eq_some, Option.some.injEq, plainEquals_iff]
    constructor
    · intro h
      obtain ⟨⟨rest, hdrop, hfree⟩, hn⟩ := h
      -- the equals sign ends the operator, and nothing behind it carries on
      have hsplit : t = (t.take (combinedOperator t) ++ ['=']) ++ rest := by
        rw [List.append_assoc, List.singleton_append, ← hdrop, List.take_append_drop]
      have hlength := congrArg List.length hdrop
      rw [List.length_drop, List.length_cons] at hlength
      refine ⟨Bool.eq_false_iff.2 hbefore, _, combinedOperator_mem t, rest, hsplit, hfree, ?_⟩
      rw [List.length_append, List.length_take, List.length_singleton]
      omega
    · intro h
      obtain ⟨-, op, hop, rest, rfl, hfree, hn⟩ := h
      obtain ⟨hsize, hdrop⟩ := combinedOperator_append hop rest
      exact ⟨⟨rest, hdrop, hfree⟩, by omega⟩

/-! ## The rule and the runs -/

/-- Whether a run assigns does not depend on what follows it. -/
theorem assigns_takeWhile_iff : Assigns (t.takeWhile isOperator) ↔
    ∃ op ∈ assignmentOperators, ∃ rest, t = op ++ rest ∧ NoneAhead carriesOn rest := by
  constructor
  · intro h
    obtain ⟨op, hop, ⟨inside, hrun⟩, hfree⟩ := h
    rw [← hrun, List.drop_left] at hfree
    have hbehind := (noneAhead_drop_takeWhile isOperator t).mono fun c => isOperator_of_carriesOn
    refine ⟨op, hop, inside ++ t.drop (t.takeWhile isOperator).length, ?_, hfree.append hbehind⟩
    rw [← List.append_assoc, hrun, takeWhile_append_drop]
  · intro h
    obtain ⟨op, hop, rest, rfl, hfree⟩ := h
    have hall := (isOperator_of_mem_assignmentOperators op hop).2
    rw [List.takeWhile_append_of_pos hall]
    refine ⟨op, hop, List.prefix_append _ _, ?_⟩
    rw [List.drop_left]
    exact hfree.of_prefix (List.takeWhile_prefix _)

/-- A match begins a run, and ends in it. -/
theorem run_of_assignment (h : assignment.matchAt t o = some n) :
    ∃ run, IsRunAt isOperator t o run ∧ Assigns run ∧ n ≤ run.length := by
  obtain ⟨hbefore, op, hop, rest, hsplit, hfree, rfl⟩ := assignment_eq_some_iff.1 h
  obtain ⟨hne, hall⟩ := isOperator_of_mem_assignmentOperators op hop
  have hrun : (t.drop o).takeWhile isOperator = op ++ rest.takeWhile isOperator := by
    rw [hsplit, List.takeWhile_append_of_pos hall]
  refine ⟨(t.drop o).takeWhile isOperator, ?_, ?_, ?_⟩
  · apply isRunAt_takeWhile (noneBehind_iff_any.2 hbefore)
    rw [hrun]
    exact List.append_ne_nil_of_left_ne_nil hne _
  · exact assigns_takeWhile_iff.2 ⟨op, hop, rest, hsplit, hfree⟩
  · rw [hrun, List.length_append]
    exact Nat.le_add_right _ _

/-- **Assignments are found in runs:** where a run that assigns begins, and nowhere else. -/
theorem mem_occurrences_assignment_iff :
    o ∈ assignment.occurrences t ↔ ∃ run, IsRunAt isOperator t o run ∧ Assigns run := by
  -- a match lies within a run, so the search never jumps into one
  have hinside : ∀ o n, assignment.matchAt t o = some n →
      ∃ run, IsRunAt isOperator t o run ∧ n ≤ run.length := by
    intro o n h
    obtain ⟨run, hrun, -, hle⟩ := run_of_assignment h
    exact ⟨run, hrun, hle⟩
  rw [mem_occurrences_iff_of_inside hinside]
  constructor
  · intro h
    obtain ⟨n, hn⟩ := Option.isSome_iff_exists.1 h
    obtain ⟨run, hrun, hassigns, -⟩ := run_of_assignment hn
    exact ⟨run, hrun, hassigns⟩
  · intro h
    obtain ⟨run, hrun, hassigns⟩ := h
    rw [hrun.eq_takeWhile] at hassigns
    -- the run begins with an operator that assigns, as it begins with one that is matched
    obtain ⟨op, hop, rest, hsplit, hfree⟩ := assigns_takeWhile_iff.1 hassigns
    have hbefore := noneBehind_iff_any.1 (isRunAt_iff.1 hrun).1
    have hmatch : assignment.matchAt t o = some op.length :=
      assignment_eq_some_iff.2 ⟨hbefore, op, hop, rest, hsplit, hfree, rfl⟩
    rw [hmatch]
    rfl

/-- **Assignments are the operator runs that assign.** The assignment tokens of a text stand for
    the runs of operator characters that begin with an operator that assigns, where neither an
    equals nor a greater sign follows that operator: one token for each, in their order, on the line
    of the first character of the run. A run with a comparison or an arrow at its front has no
    token, and since runs lie apart, none is counted twice. -/
theorem assignments_are_operator_runs (t : Text) (removed : List Token) (lineCount : Option Int) :
    tokensOf .assignment (classify t removed lineCount) =
      ((runs isOperator t).filter fun run => Assigns run.2).map
        (fun run => tokenAt t .assignment run.1) ∧
    (∀ run ∈ runs isOperator t, Assigns run.2 →
      ∀ sign ∈ comparisonsAndArrow, ¬ sign <+: run.2) ∧
    (runs isOperator t).Pairwise fun run next => run.1 + run.2.length < next.1 := by
  have hrule : (⟨.assignment, assignment⟩ : Rule) ∈ Rule.all := by simp [Rule.all]
  refine ⟨?_, ?_, pairwise_runs isOperator t⟩
  · exact tokensOf_classify_of_runs hrule fun o => mem_occurrences_assignment_iff
  · intro run _ hassigns sign hsign hpre
    exact not_assigns_of_comparison hsign hpre hassigns

/-- A shift that assigns, an arrow on the next line, and a comparison. -/
def shiftAndArrow : Text :=
  ['a', '<', '<', '=', '-', 'b', '\n', 'f', '=', '>', 'c', '=', '=', 'd']

theorem assignments_are_operator_runs_shiftAndArrow :
    (1, ['<', '<', '=', '-']) ∈ runs isOperator shiftAndArrow ∧ Assigns ['<', '<', '=', '-'] ∧
    ['=', '='] ∈ comparisonsAndArrow ∧ ¬ ['=', '='] <+: ['<', '<', '=', '-'] ∧
    tokensOf .assignment (classify shiftAndArrow [] none) =
      [tokenAt shiftAndArrow .assignment 1] := by
  obtain ⟨htokens, hsigns, -⟩ := assignments_are_operator_runs shiftAndArrow [] none
  have hrun : (1, ['<', '<', '=', '-']) ∈ runs isOperator shiftAndArrow := by decide +kernel
  have hassigns : Assigns ['<', '<', '=', '-'] := by decide
  have hsign : ['=', '='] ∈ comparisonsAndArrow := by decide
  refine ⟨hrun, hassigns, hsign, hsigns _ hrun hassigns _ hsign, ?_⟩
  rw [htokens]
  decide +kernel

end SourceCensus.Rule
