import SourceCensus.Token

/-! # Tokens of one kind

    The tokens of a text are told apart by their kinds. `tokensOf` picks those of one kind and keeps
    their order, so it takes a list of tokens apart where the kinds of its parts are known.
-/

namespace SourceCensus

variable {kind : TokenKind} {tokens : List Token}

/-- The tokens of one kind, in their order. -/
def tokensOf (kind : TokenKind) (tokens : List Token) : List Token :=
  tokens.filter fun tok => tok.kind = kind

theorem tokensOf_append (tokens others : List Token) :
    tokensOf kind (tokens ++ others) = tokensOf kind tokens ++ tokensOf kind others :=
  List.filter_append ..

theorem tokensOf_of_forall_eq (h : ∀ tok ∈ tokens, tok.kind = kind) :
    tokensOf kind tokens = tokens := by
  apply List.filter_eq_self.2
  intro tok htok
  exact decide_eq_true (h tok htok)

theorem tokensOf_of_forall_ne (h : ∀ tok ∈ tokens, tok.kind ≠ kind) :
    tokensOf kind tokens = [] := by
  apply List.filter_eq_nil_iff.2
  intro tok htok
  simpa using h tok htok

/-! ## Descriptions

    Where every token describes something in the same way, the kind is that of the description. -/

variable {α : Type} {describe : α → Token}

theorem tokensOf_map_of_forall_eq (h : ∀ a, (describe a).kind = kind) (as : List α) :
    tokensOf kind (as.map describe) = as.map describe := by
  apply tokensOf_of_forall_eq
  intro tok htok
  obtain ⟨a, -, rfl⟩ := List.mem_map.1 htok
  exact h a

theorem tokensOf_map_of_forall_ne (h : ∀ a, (describe a).kind ≠ kind) (as : List α) :
    tokensOf kind (as.map describe) = [] := by
  apply tokensOf_of_forall_ne
  intro tok htok
  obtain ⟨a, -, rfl⟩ := List.mem_map.1 htok
  exact h a

end SourceCensus
