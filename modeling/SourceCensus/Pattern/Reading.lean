import SourceCensus.Pattern.Flaw

/-! # Steps of reading a pattern

    The text of a pattern is cut into marks: a character, or a backslash with the character after
    it. A backslash at the very end is no mark; it is a flaw, which shows as soon as no mark is left
    before it.

    ## State

    A step of reading takes marks from the text and keeps what later parts of the pattern depend on:
    options set for the whole pattern, the widths of the groups that are closed, the names of
    groups, and, inside a look behind, how many groups were open when it began.

    ## Room

    Groups are read by calls that are nested as the groups are. How many calls may be open at the
    same time is not for the reader to decide; a pattern that needs more of them is not read.
-/

namespace SourceCensus.Pattern

/-! ## Marks -/

/-- A unit of the text of a pattern. -/
inductive Mark where
  /-- A character that stands alone. -/
  | plain (c : Char)
  /-- A character after a backslash. -/
  | escaped (c : Char)
  deriving DecidableEq, Repr

/-- The characters of a mark. -/
def Mark.chars : Mark → List Char
  | .plain c => [c]
  | .escaped c => ['\\', c]

/-- The marks of a text. -/
def marks : List Char → List Mark
  | [] => []
  | ['\\'] => []
  | '\\' :: c :: rest => .escaped c :: marks rest
  | c :: rest => .plain c :: marks rest

/-- A backslash is left at the end of a text, behind its marks. -/
def isDangling : List Char → Bool
  | [] => false
  | ['\\'] => true
  | '\\' :: _ :: rest => isDangling rest
  | _ :: rest => isDangling rest

/-- The characters of several marks. -/
def charsOf (ms : List Mark) : List Char := ms.flatMap Mark.chars

/-! ## The state of reading -/

/-- What reading depends on. -/
structure Reading where
  /-- Marks that are left. -/
  rest : List Mark
  /-- Number of characters before them. -/
  position : Nat := 0
  /-- A backslash is left behind the marks. -/
  dangling : Bool := false
  /-- Options of the whole pattern. -/
  options : Options := {}
  /-- Both alphabets were chosen for the whole pattern. -/
  conflict : Bool := false
  /-- Widths of the groups from the first one on; none while a group is open. -/
  widths : List (Option Width) := []
  /-- Numbers of the named groups. -/
  names : List (List Char × Nat) := []
  /-- Number of the first group that a look behind must not refer to. -/
  behindLimit : Option Nat := none
  /-- Numbers of groups on which something depends, with the positions of the numbers. The number
      that was read last comes first. -/
  conditions : List (Nat × Nat) := []

/-- The state in which the reading of a text begins. -/
def Reading.ofText (t : List Char) : Reading := { rest := marks t, dangling := isDangling t }

/-- What reading relies on besides the text. -/
structure Facilities where
  /-- The character that has a name. -/
  characterNamed : String → Option Char
  /-- The number of calls that may be open at the same time. Those that a step makes and is done
      with before the next one are not counted. -/
  room : Nat

/-- A step of reading. -/
abbrev Reader := StateT Reading (Except PatternError)

namespace Reader

/-! ## Giving up -/

/-- The text has a flaw, which shows at a position. -/
def malformedAt {α : Type} (position : Nat) (flaw : Flaw) : Reader α :=
  throw (.malformed flaw (some position))

/-- The text has a flaw, which shows some characters before the next mark. -/
def malformed {α : Type} (flaw : Flaw) (back : Nat) : Reader α := do
  malformedAt ((← get).position - back) flaw

/-- Goes on with fewer calls, if that many are left. -/
def within {α : Type} (room calls : Nat) (x : Nat → Reader α) : Reader α :=
  if room < calls then throw .nestedTooDeep else x (room - calls)

/-! ## Taking marks -/

/-- The state behind the first `count` marks that are left. -/
def ahead (s : Reading) (count : Nat) : Reading :=
  { s with
    rest := s.rest.drop count
    position := s.position + (charsOf (s.rest.take count)).length }

/-- Nothing but a backslash is left. -/
def atDangling (s : Reading) : Bool := s.rest.isEmpty && s.dangling

/-- Goes on behind some marks, which shows whether nothing but a backslash is left. -/
def skip (count : Nat) : Reader Unit := do
  modify (ahead · count)
  if atDangling (← get) then malformed .danglingBackslash 0

/-- The next mark, if there is one. -/
def peek : Reader (Option Mark) := return (← get).rest.head?

/-- Takes the next mark, if there is one. -/
def next : Reader (Option Mark) := do
  let m ← peek
  skip 1
  return m

/-- Takes a given character if it comes next. -/
def accept (c : Char) : Reader Bool := do
  if (← peek) = some (.plain c) then
    skip 1
    return true
  else return false

/-- The characters of a class at the start of marks, at most `limit` of them. -/
def leadingChars (allowed : Char → Bool) : Nat → List Mark → List Char
  | limit + 1, .plain c :: rest =>
    if allowed c then c :: leadingChars allowed limit rest else []
  | _, _ => []

/-- Takes the plain characters of a class that come next, at most `limit` of them. -/
def takeChars (allowed : Char → Bool) (limit : Nat) : Reader (List Char) := do
  let cs := leadingChars allowed limit (← get).rest
  skip cs.length
  return cs

/-- Takes all plain characters of a class that come next. -/
def takeAllChars (allowed : Char → Bool) : Reader (List Char) := do
  takeChars allowed (← get).rest.length

/-- Takes everything up to a character, which is left. -/
def takeBefore (c : Char) : Reader (List Char) := do
  let before := (← get).rest.takeWhile (· ≠ .plain c)
  skip before.length
  return charsOf before

/-- A name up to a closing character, which is taken too. -/
def takeName (what : Wanted) (close : Char) : Reader (List Char) := do
  let name ← takeBefore close
  let closed := (← next).isSome
  if name.isEmpty then malformed (.missing what) (if closed then 1 else 0)
  else if closed then return name
  else malformed (.missing (.nameEnd close)) name.length

/-- Takes everything up to a character, which is taken too; whether it was found. -/
def skipPast (c : Char) : Reader Bool := do
  let _ ← takeBefore c
  return (← next).isSome

end Reader

open Reader

/-! ## Groups -/

/-- Number of groups, counting the whole pattern as group zero. -/
def groupCount (s : Reading) : Nat := s.widths.length + 1

/-- The width of a group that is closed. -/
def closedWidth? (s : Reading) (n : Nat) : Option Width :=
  if n = 0 then none else (s.widths[n - 1]?).join

/-- Widths of groups, zero for what is not closed. -/
def widthTable (s : Reading) (n : Nat) : Width := (closedWidth? s n).getD ⟨0, 0⟩

/-- Inside a look behind, a group may be referred to only if it is closed and began before the look
    behind. -/
def checkBehind (n : Nat) : Reader Unit := do
  let s ← get
  match s.behindLimit with
  | none => return
  | some limit =>
    if (closedWidth? s n).isNone then malformed .openGroup 0
    if limit ≤ n then malformed .groupBehind 0

/-- A group may be referred to here. That it is not closed shows some characters before. -/
def checkReference (n back : Nat) : Reader Unit := do
  if (closedWidth? (← get) n).isNone then malformed .openGroup back
  checkBehind n

/-- Opens a group. That its name is taken shows where the name begins. -/
def openGroup (name : Option (List Char)) : Reader Nat := do
  let s ← get
  let n := groupCount s
  match name with
  | none => set { s with widths := s.widths ++ [none] }
  | some name =>
    match s.names.lookup name with
    | some before => malformed (.sameName name n before) (name.length + 1)
    | none => set { s with widths := s.widths ++ [none], names := (name, n) :: s.names }
  return n

/-- Closes a group. -/
def closeGroup (n : Nat) (body : Node) : Reader Unit :=
  modify fun s => { s with widths := s.widths.set (n - 1) (some (body.width (widthTable s))) }

end SourceCensus.Pattern
