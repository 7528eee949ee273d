import SourceCensus.Occurrence

/-! # The assignment rule

    An assignment is an equals sign, alone or with an operator before it, that begins a run
    of operator characters and is followed by neither an equals sign nor a greater sign.
    So comparisons and arrows are no assignments, and a run counts once at most.
-/

namespace SourceCensus.Rule

/-- The characters of which operators are made. -/
def operatorChars : List Char :=
  ['=', '!', '<', '>', '+', '-', '*', '/', '%', '&', '|', '^', '?']

/-- A character of which operators are made. -/
def isOperator (c : Char) : Bool := operatorChars.contains c

/-- The operators of one character that may be combined with an assignment. -/
def singleOperators : List Char := ['+', '-', '*', '/', '%', '&', '|', '^']

/-- Number of characters of the operator that an assignment begins with. -/
def combinedOperator : Text → Nat
  | '<' :: '<' :: _ => 2
  | '>' :: '>' :: _ => 2
  | '?' :: '?' :: _ => 2
  | c :: _ => if singleOperators.contains c then 1 else 0
  | [] => 0

/-- An equals sign that is not part of a comparison or an arrow. -/
def plainEquals : Text → Bool
  | '=' :: rest => rest.head? ≠ some '=' && rest.head? ≠ some '>'
  | _ => false

/-- The rule for assignments. -/
def assignment : Recogniser := fun before t =>
  if before.any isOperator then none
  else
    let size := combinedOperator t
    if plainEquals (t.drop size) then some (size + 1) else none

end SourceCensus.Rule
