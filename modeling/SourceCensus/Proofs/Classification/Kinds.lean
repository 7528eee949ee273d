import SourceCensus.Proofs.Classification.Coverage
import SourceCensus.Proofs.Rule.Runs
import Mathlib.Data.List.Nodup

/-! # The tokens of one kind

    Every rule yields tokens of a kind of its own, and what is added for empty and for other lines
    is of two more kinds. So the tokens of a rule's kind are those of its occurrences, whatever was
    removed before and however many lines there are (`tokensOf_classify`). Where a rule finds
    something in runs of characters, they stand for these runs (`tokensOf_classify_of_runs`).
-/

namespace SourceCensus

open Text

variable {t : Text} {rule : Rule} {kind : TokenKind} {removed : List Token}
  {lineCount : Option Int}

/-- The token of a construct, on the line of its first character. -/
def tokenAt (t : Text) (kind : TokenKind) (offset : Nat) : Token :=
  { line := t.lineNumber offset, kind }

/-! ## Rules and their kinds -/

theorem tokens_eq (rule : Rule) (t : Text) :
    rule.tokens (LineIndex.ofText t) t =
      (rule.recogniser.occurrences t).map (tokenAt t rule.kind) := by
  apply List.map_congr_left
  intro offset _
  rw [tokenAt, LineIndex.lineOf_eq_lineNumber]

theorem kind_of_mem_tokens {tok : Token} (h : tok ∈ rule.tokens (LineIndex.ofText t) t) :
    tok.kind = rule.kind := by
  obtain ⟨offset, -, rfl⟩ := List.mem_map.1 h
  rfl

/-- No two rules yield tokens of the same kind. -/
theorem tokensOf_ruleTokens (hrule : rule ∈ Rule.all) :
    tokensOf rule.kind (ruleTokens t) = rule.tokens (LineIndex.ofText t) t := by
  have hkinds : (Rule.all.map Rule.kind).Nodup := by decide
  obtain ⟨before, after, hall⟩ := List.append_of_mem hrule
  rw [hall, List.map_append, List.map_cons, List.nodup_middle, List.nodup_cons] at hkinds
  -- a token has the kind of its rule, and the other rules have other kinds
  have hothers : ∀ other ∈ before ++ after, ∀ tok ∈ other.tokens (LineIndex.ofText t) t,
      tok.kind ≠ rule.kind := by
    intro other hother tok htok hkind
    apply hkinds.1
    rw [← hkind, kind_of_mem_tokens htok, ← List.map_append]
    exact List.mem_map_of_mem hother
  -- the rules before it and those after it yield nothing of its kind
  have hnone : ∀ rules : List Rule, (∀ other ∈ rules, other ∈ before ++ after) →
      tokensOf rule.kind (rules.flatMap fun other => other.tokens (LineIndex.ofText t) t) = [] := by
    intro rules hrules
    apply tokensOf_of_forall_ne
    intro tok htok
    obtain ⟨other, hother, htok⟩ := List.mem_flatMap.1 htok
    exact hothers other (hrules other hother) tok htok
  have hown : tokensOf rule.kind (rule.tokens (LineIndex.ofText t) t) =
      rule.tokens (LineIndex.ofText t) t := tokensOf_of_forall_eq fun _ => kind_of_mem_tokens
  rw [ruleTokens, hall, List.flatMap_append, List.flatMap_cons, tokensOf_append, tokensOf_append,
    hown, hnone before fun _ => List.mem_append_left after,
    hnone after fun _ => List.mem_append_right before, List.nil_append, List.append_nil]

/-- The tokens of a masked text: those of the rules, the empty lines and the other lines. -/
theorem classify_eq (t : Text) (removed : List Token) (lineCount : Option Int) :
    classify t removed lineCount =
      ruleTokens t ++ emptyLines t removed ++ otherLines (lineCount.getD t.countLines)
        (ruleTokens t ++ emptyLines t removed ++ removed) := rfl

/-- **The tokens of a rule's kind** stand for what the rule finds. -/
theorem tokensOf_classify (hrule : rule ∈ Rule.all) :
    tokensOf rule.kind (classify t removed lineCount) =
      (rule.recogniser.occurrences t).map (tokenAt t rule.kind) := by
  have hkinds : ∀ rule ∈ Rule.all, rule.kind ∉ [TokenKind.emptyLine, .other] := by decide
  have hkind := hkinds rule hrule
  simp only [List.mem_cons, List.not_mem_nil, or_false, not_or] at hkind
  have hempty : tokensOf rule.kind (emptyLines t removed) = [] := by
    apply tokensOf_of_forall_ne
    intro tok htok heq
    exact hkind.1 (heq ▸ kind_of_mem_emptyLines htok)
  rw [classify_eq, tokensOf_append, tokensOf_append, tokensOf_ruleTokens hrule, hempty,
    List.append_nil, tokens_eq, tokensOf_of_forall_ne, List.append_nil]
  intro tok htok heq
  exact hkind.2 (heq ▸ kind_of_mem_otherLines htok)

/-- **The tokens of runs:** one for each run in which the rule finds something, in their order. -/
theorem tokensOf_classify_of_runs {p : Char → Bool} {P : Nat × Text → Prop} [DecidablePred P]
    (hrule : rule ∈ Rule.all)
    (h : ∀ o, o ∈ rule.recogniser.occurrences t ↔ ∃ w, Rule.IsRunAt p t o w ∧ P (o, w)) :
    tokensOf rule.kind (classify t removed lineCount) =
      ((Rule.runs p t).filter fun run => P run).map fun run => tokenAt t rule.kind run.1 := by
  rw [tokensOf_classify hrule, Rule.occurrences_eq_of_runs h, List.map_map]
  rfl

end SourceCensus
