import SourceCensus.Text.Line

/-! # Blanking spans of a text

    A span is a pair of offsets, the second one exclusive. Blanking turns every character
    inside a span into a space and keeps line feeds, so neither the length nor the line
    layout of a text changes.

    `blank` takes spans whose offsets are plain positions and ignores what lies beyond the
    end. `blank?` takes offsets as a caller writes them: an offset below zero counts from
    the end, and an offset that meets no character is an error.
-/

namespace SourceCensus

/-- Why a span cannot be blanked. -/
inductive SpanError where
  /-- The span reaches beyond the text. -/
  | outOfRange
  deriving DecidableEq, Repr

/-- The text of a span error. -/
def SpanError.message : SpanError → String
  | .outOfRange => "list index out of range"

namespace Text

/-- A space, unless the character is a line feed. -/
def blankChar (c : Char) : Char := if c = '\n' then c else ' '

/-- Blanks the characters at the positions `start`, …, `start + count - 1`. -/
def blankRun (cs : Array Char) (start : Nat) : Nat → Array Char
  | 0 => cs
  | count + 1 => blankRun (cs.modify start blankChar) (start + 1) count

/-- Blanks every span, one after the other; positions beyond the end are ignored. -/
def blank (spans : List (Nat × Nat)) (t : Text) : Text :=
  (spans.foldl (fun cs s => blankRun cs s.1 (min s.2 cs.size - s.1)) t.toArray).toList

/-- A span whose offsets all meet a character of a text of length `n`. -/
def spanInside (n : Nat) (s : Int × Int) : Bool := s.2 ≤ s.1 || (-n ≤ s.1 && s.2 ≤ n)

/-- The positions of a span as at most two runs: the part below zero counts from the end. -/
def spanPositions (n : Nat) (s : Int × Int) : List (Nat × Nat) :=
  [((n + min s.1 0).toNat, (n + min s.2 0).toNat), ((max s.1 0).toNat, (max s.2 0).toNat)]

/-- Blanks every span, or fails when an offset meets no character. -/
def blank? (spans : List (Int × Int)) (t : Text) : Except SpanError Text :=
  if spans.all (spanInside t.length) then
    .ok (blank (spans.flatMap (spanPositions t.length)) t)
  else .error .outOfRange

end Text

end SourceCensus
