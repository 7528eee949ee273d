import SourceCensus.Text.Line

/-! # Occurrences

    A recogniser looks at one place of a text: it sees the character before the place, if
    there is one, and all characters from the place on, and answers how many characters it
    matches. Its occurrences in a text are found from left to right; after a match the
    search goes on behind it, so occurrences never overlap.
-/

namespace SourceCensus

/-- Number of characters matched at a place, given the character before it. A match covers at
    least one character. -/
abbrev Recogniser := Option Char → Text → Option Nat

namespace Recogniser

/-- Offsets of the occurrences in a text that begins at `offset` and follows `before`. -/
def occurrencesFrom (r : Recogniser) (before : Option Char) (offset : Nat) : Text → List Nat
  | [] => []
  | c :: rest =>
    match r before (c :: rest) with
    | none => occurrencesFrom r (some c) (offset + 1) rest
    | some size =>
      let more := size - 1
      offset :: occurrencesFrom r ((c :: rest)[more]? <|> some c) (offset + 1 + more)
        (rest.drop more)
termination_by t => t.length
decreasing_by all_goals simp +arith

/-- Offsets of the occurrences in a text. -/
def occurrences (r : Recogniser) (t : Text) : List Nat := occurrencesFrom r none 0 t

/-- Matches where the first of several recognisers matches. -/
def firstOf (rs : List Recogniser) : Recogniser := fun before t => rs.findSome? fun r => r before t

end Recogniser

end SourceCensus
