import SourceCensus.Pattern.Reader

/-! # Patterns that are ready for searching

    A pattern is ready when its text has been read to the end and the whole of it holds together.
    The checks are made in this order: one alphabet is chosen at most, and the groups that
    conditions ask for exist; there are calls enough to find the width of the whole; and on the way
    through the nodes, in the order of the text, there are calls enough for each body, look behinds
    have a fixed width, and nothing is repeated where that is not allowed.
-/

namespace SourceCensus.Pattern

/-! ## Checks of the nodes -/

/-- The greatest number of characters that a look behind may go back. -/
def behindEnd : Nat := 4294967295

/-- What is wrong with a look behind of a given width. -/
def Width.flaw? (w : Width) : Option Flaw :=
  if behindEnd < w.least then some .tooFarBehind
  else if w.least ≠ w.most then some .unevenBehind
  else none

/-- Goes into a body with one call fewer, if one is left. -/
def inside (room : Nat) (x : Nat → Option PatternError) : Option PatternError :=
  if room = 0 then some .nestedTooDeep else x (room - 1)

mutual

/-- What is found wrong first on the way through a node, where repetition may not be allowed. There
    has to be a call for each body, and for each body of which the width is asked for. -/
def Node.fault? (template : Bool) : Node → Nat → Option PatternError
  | .group _ _ _ body, room => inside room fun left => body.fault? template left
  | .atomic body, room => inside room fun left => body.fault? template left
  | .lookAhead _ body, room => inside room fun left => body.fault? template left
  | .lookBehind _ width body, room => inside room fun left =>
    if left < body.widthDepth then some .nestedTooDeep
    else (width.flaw?.map fun flaw => .malformed flaw none) <|> body.fault? template left
  | .conditional _ yes no, room => inside room fun left =>
    yes.fault? template left <|> no.fault? template left
  | .repeated greed _ _ body, room =>
    if template then some (.malformed (.repetitionInTemplate greed) none)
    else if body.plainBody?.isSome then body.fault? template room
    else inside room fun left => body.fault? template left
  | .sequence items, room => firstFault? template items room
  | .choice branches, room => inside room fun left => firstFault? template branches left
  | _, _ => none

/-- What is found wrong first on the way through several nodes. -/
def firstFault? (template : Bool) : List Node → Nat → Option PatternError
  | [], _ => none
  | n :: ns, room => n.fault? template room <|> firstFault? template ns room

end

/-! ## The whole pattern -/

/-- A pattern that is ready for searching. -/
structure Compiled where
  /-- The text it was read from. -/
  source : String
  /-- What it means. -/
  node : Node
  /-- Options of the whole pattern. -/
  options : Options
  /-- The least number of characters that it matches. -/
  least : Nat

/-- Reads a whole text. A backslash that is all of it is a flaw before anything is read. -/
def readWhole (f : Facilities) : Reader Node := do
  Reader.skip 0
  let fuel := 4 * (← get).rest.length + 4
  Reader.within f.room 2 fun left => readChoice f fuel left false true

/-- The first condition that asks for a group that is not there. -/
def missingGroup? (s : Reading) : Option (Nat × Nat) :=
  s.conditions.reverse.find? fun condition => groupCount s ≤ condition.1

/-- What is wrong with a whole that has been read, if anything is. -/
def wholeError? (f : Facilities) (node : Node) (s : Reading) : Option PatternError :=
  if s.conflict then some .alphabetsConflict
  else if !s.rest.isEmpty then some (.malformed .strayParenthesis (some s.position))
  else
    match missingGroup? s with
    | some (n, position) => some (.malformed (.noGroup n) (some position))
    | none =>
      if f.room < node.widthDepth then some .nestedTooDeep
      else node.fault? s.options.template f.room

/-- The pattern that a text writes. -/
def compile (f : Facilities) (source : String) : Except PatternError Compiled := do
  let (node, s) ← (readWhole f).run (.ofText source.toList)
  match wholeError? f node s with
  | some e => throw e
  | none =>
    return { source, node, options := s.options, least := (node.width (widthTable s)).least }

end SourceCensus.Pattern
