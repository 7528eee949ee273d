/-! # Lines of a text

    A text is a list of characters; offsets and lengths count characters. Lines are
    numbered from one and end at a line feed, so a text has one line more than it has
    line feeds, and an empty text has no line.

    ## Line endings

    A text from outside may end its lines with a line feed, a carriage return, or the
    pair of both. `normalizeNewlines` replaces the pairs first and the single carriage
    returns after them; `unifyNewlines` says the same in one pass.

    ## Line numbers

    `lineNumber` counts the line feeds before an offset. A `LineIndex` holds the offsets
    of all line feeds, so that a lookup is a binary search.
-/

namespace SourceCensus

/-- A source text: offsets and lengths count its characters. -/
abbrev Text := List Char

namespace Text

/-! ## Line endings -/

/-- Every pair of carriage return and line feed becomes one line feed. -/
def joinPairs : Text → Text
  | [] => []
  | '\r' :: '\n' :: rest => '\n' :: joinPairs rest
  | c :: rest => c :: joinPairs rest

/-- A carriage return becomes a line feed. -/
def feedOfReturn (c : Char) : Char := if c = '\r' then '\n' else c

/-- All line endings become line feeds: the pairs first, then what is left of carriage returns. -/
def normalizeNewlines (t : Text) : Text := (joinPairs t).map feedOfReturn

/-- The same in a single pass from left to right. -/
def unifyNewlines : Text → Text
  | [] => []
  | '\r' :: '\n' :: rest => '\n' :: unifyNewlines rest
  | c :: rest => feedOfReturn c :: unifyNewlines rest

/-! ## Counting -/

/-- Number of line feeds. -/
def feeds (t : Text) : Nat := t.count '\n'

/-- Number of lines; an empty text has none. -/
def countLines (t : Text) : Nat := if t.isEmpty then 0 else t.feeds + 1

/-- The number of characters before an offset: an offset below zero counts from the end, and
    none lies outside the text. -/
def clip (t : Text) (i : Int) : Nat :=
  if i < 0 then (t.length + i).toNat else min i.toNat t.length

/-- The line that contains an offset: one more than the line feeds before it. -/
def lineNumber (t : Text) (i : Int) : Nat := feeds (t.take (t.clip i)) + 1

/-- The line that contains an offset, and the column in it, counted from one. -/
def lineAndColumn (t : Text) (i : Nat) : Nat × Nat :=
  let before := t.take i
  (feeds before + 1, (before.reverse.takeWhile (· ≠ '\n')).length + 1)

/-- The lines of a text: what stands between its line feeds. -/
def lines : Text → List Text
  | [] => [[]]
  | c :: rest =>
    if c = '\n' then [] :: lines rest
    else match lines rest with
      | [] => [[c]]
      | l :: ls => (c :: l) :: ls

end Text

/-! ## Lookup by bisection -/

/-- The offsets of a text's line feeds, in ascending order. -/
structure LineIndex where
  /-- Offsets of the line feeds. -/
  breaks : Array Nat

namespace LineIndex

/-- Offsets of the line feeds of a text whose first character stands at `offset`. -/
def breaksFrom (offset : Nat) : Text → List Nat
  | [] => []
  | c :: rest =>
    if c = '\n' then offset :: breaksFrom (offset + 1) rest else breaksFrom (offset + 1) rest

/-- The index of a text. -/
def ofText (t : Text) : LineIndex := ⟨(breaksFrom 0 t).toArray⟩

/-- The number of entries of an ascending array that lie below `i`, searched between `lo` and
    `hi`. -/
def bisect (a : Array Nat) (i : Int) (lo hi : Nat) : Nat :=
  if lo < hi then
    let mid := (lo + hi) / 2
    if i ≤ ((a[mid]?.getD 0 : Nat) : Int) then bisect a i lo mid else bisect a i (mid + 1) hi
  else lo
termination_by hi - lo

/-- The line that contains an offset. An offset below zero lies on the first line. -/
def lineOf (index : LineIndex) (i : Int) : Nat := bisect index.breaks i 0 index.breaks.size + 1

end LineIndex

end SourceCensus
