import SourceCensus.Number.Integer
import SourceCensus.Pattern.Escape
import SourceCensus.Text.Identifier
import SourceCensus.Text.Word

/-! # Reading search patterns

    A pattern is read from its text from left to right: choices between sequences of nodes, which
    hold further choices in their groups. The first flaw that is met is the one that is reported.

    ## Fuel

    The parts of the reader that call one another take fuel. Each round of calls takes a mark, so a
    few units of fuel for each mark are enough.
-/

namespace SourceCensus.Pattern

open Reader Text

/-! ## Options -/

/-- The option that a letter stands for. -/
def optionOf? (c : Char) : Option Options :=
  if c = 'i' then some { ignoreCase := true }
  else if c = 'm' then some { multiline := true }
  else if c = 's' then some { dotAll := true }
  else if c = 'x' then some { verbose := true }
  else if c = 't' then some { template := true }
  else if c = 'a' then some { alphabet := some .ascii }
  else if c = 'u' then some { alphabet := some .unicode }
  else none

/-- A letter is meant for an option, if only of patterns of bytes. -/
def isOption (c : Char) : Bool := c = 'L' || (optionOf? c).isSome

/-- The letter of an option that a mark is. Otherwise something else is missing, unless the mark is
    a letter. -/
def optionLetter (wanted : Wanted) : Option Mark → Reader Char
  | none => malformed (.missing wanted) 0
  | some (.escaped _) => malformed (.missing wanted) 2
  | some (.plain c) =>
    if isOption c then return c
    else if isLetter c then malformed .unknownOption 1
    else malformed (.missing wanted) 1

/-- What follows options that are turned on: they end, or options are turned off, or a body
    begins. -/
inductive OptionsEnd where
  | close
  | minus
  | colon
  deriving DecidableEq, Repr

/-- The options to turn on from a letter on, and what ends them. -/
def readOptionsOn : Nat → Options → Char → Reader (Options × OptionsEnd)
  | 0, _, _ => malformed (.missing .optionsEnd) 0
  | fuel + 1, acc, c => do
    match optionOf? c with
    | none => malformed .bytesOption 0
    | some o =>
      let both := acc.union o
      if o.alphabet.isSome && acc.alphabet.isSome && acc.alphabet ≠ o.alphabet then
        malformed .twoAlphabets 0
      let m ← next
      if m = some (.plain ':') then return (both, .colon)
      else if m = some (.plain ')') then return (both, .close)
      else if m = some (.plain '-') then return (both, .minus)
      else readOptionsOn fuel both (← optionLetter .optionsEnd m)

/-- The options to turn off from a letter on, up to a colon. -/
def readOptionsOff : Nat → Options → Char → Reader Options
  | 0, _, _ => malformed (.missing .colon) 0
  | fuel + 1, acc, c => do
    match optionOf? c with
    | none => malformed .alphabetOff 0
    | some o =>
      if o.alphabet.isSome then malformed .alphabetOff 0
      let m ← next
      if m = some (.plain ':') then return acc.union o
      else readOptionsOff fuel (acc.union o) (← optionLetter .colon m)

/-- Sets options for the whole pattern. -/
def setGlobal (o : Options) : Reader Unit :=
  modify fun s => { s with
    options := s.options.union o
    conflict := s.conflict
      || (s.options.alphabet.isSome && o.alphabet.isSome && s.options.alphabet ≠ o.alphabet) }

/-- The options turned on and off for a group, or nothing when they are set for the whole
    pattern. -/
def readGroupOptions (c : Char) : Reader (Option (Options × Options)) := do
  let fuel := (← get).rest.length + 1
  let (on, ending) ← if c = '-' then pure (({} : Options), OptionsEnd.minus)
    else readOptionsOn fuel {} c
  match ending with
  | .close =>
    setGlobal on
    return none
  | .colon =>
    if on.template then malformed .wholeOptionOn 1
    return some (on, {})
  | .minus =>
    if on.template then malformed .wholeOptionOn 1
    let first ← optionLetter .option (← next)
    let off ← readOptionsOff fuel {} first
    if off.template then malformed .wholeOptionOff 1
    if on.meets off then malformed .onAndOff 1
    return some (on, off)

/-! ## Repetition -/

/-- Repetition numbers from here on are too large. -/
def repetitionLimit : Nat := 4294967295

/-- The repetition number that digits write. No digits write zero. -/
def repetitionNumber (ds : List Char) : Reader Nat := do
  if digitLimit < ds.length then throw (.tooManyDigits ds.length)
  let n := numberIn 10 ds
  if repetitionLimit ≤ n then throw .repetitionTooLarge
  return n

/-- The bounds between braces, or nothing when the brace stands for itself. -/
def readBounds : Reader (Option (Nat × Option Nat)) := do
  let start ← get
  if (← peek) = some (.plain '\x7d') then return none
  let low ← takeAllChars isDecimalDigit
  let high ← if ← accept ',' then takeAllChars isDecimalDigit else pure low
  if !(← accept '\x7d') then
    modify fun s => { s with rest := start.rest, position := start.position }
    return none
  let least ← repetitionNumber low
  if high.isEmpty then return some (least, none)
  let most ← repetitionNumber high
  if most < least then malformedAt start.position .boundsReversed
  return some (least, some most)

/-- Why a node may not be repeated. -/
def unrepeatable? : Node → Option Flaw
  | .anchor _ => some .nothingToRepeat
  | .repeated _ _ _ _ => some .repeatedTwice
  | _ => none

/-- How a repetition decides, which a mark behind it may tell. -/
def readGreed : Reader Greed := do
  if ← accept '?' then return .lazy
  if ← accept '+' then return .possessive
  return .greedy

/-- Repeats the last of the nodes read so far, which come last first. That it may not be repeated
    shows at the repetition. -/
def repeatLast (start : Nat) (bounds : Nat × Option Nat) : List Node → Reader (List Node)
  | [] => malformedAt start .nothingToRepeat
  | item :: rest => do
    match unrepeatable? item with
    | some flaw => malformedAt start flaw
    | none => return .repeated (← readGreed) bounds.1 bounds.2 item :: rest

/-! ## Sequences and choices -/

/-- White space that a verbose pattern may hold. -/
def isVerboseBlank (c : Char) : Bool :=
  c = ' ' || c = '\t' || c = '\n' || c = '\r' || c = '\x0b' || c = '\x0c'

/-- The nodes of a sequence. -/
def sequenceItems : Node → List Node
  | .sequence items => items
  | n => [n]

/-- The nodes that a node stands for in a sequence: a group that neither captures nor changes
    options is its body. -/
def unwrapped (n : Node) : List Node :=
  match n.plainBody? with
  | some body => sequenceItems body
  | none => [n]

/-- Two nodes are the same simple node. Nodes with a body count as different. -/
def sameSimple : Node → Node → Bool
  | .one m c, .one n d => m = n && c = d
  | .any, .any => true
  | .oneOf m items, .oneOf n others => m = n && items = others
  | .anchor a, .anchor b => a = b
  | .reference m, .reference n => m = n
  | _, _ => false

/-- The simple node that all branches begin with. -/
def commonFirst? : List (List Node) → Option Node
  | (n :: _) :: rest =>
    if rest.all fun items => items.head?.any (sameSimple n) then
      if sameSimple n n then some n else none
    else none
  | _ => none

/-- Moves what all branches begin with out of them. At most `fuel` nodes are moved. -/
def splitCommon : Nat → List (List Node) → List Node × List (List Node)
  | 0, branches => ([], branches)
  | fuel + 1, branches =>
    match commonFirst? branches with
    | none => ([], branches)
    | some n =>
      let (lead, rests) := splitCommon fuel (branches.map List.tail)
      (n :: lead, rests)

/-- The members of a class that consists of the characters of a single node. -/
def singleItems? : List Node → Option (List ClassItem)
  | [.one false c] => some [.one c]
  | [.oneOf false items] => some items
  | _ => none

/-- A choice between branches: what they begin with in common stands before it, and a choice
    between single characters is a character class. -/
def choiceNode (branches : List Node) : Node :=
  match branches with
  | [n] => n
  | _ =>
    let all := branches.map sequenceItems
    let (lead, rests) := splitCommon all.flatten.length all
    match rests.mapM singleItems? with
    | some items => .sequence (lead ++ [.oneOf false items.flatten.eraseDups])
    | none => .sequence (lead ++ [.choice (rests.map .sequence)])

/-- Numbers of groups from here on are too large. -/
def groupLimit : Nat := 1073741823

/-- The number of a group that a text writes. -/
def groupNumber? (t : List Char) : Option Nat :=
  if digitLimit < (t.filter isDecimal).length then none
  else (Number.readInteger? t).bind fun n => if n < 0 then none else some n.toNat

/-- The number of the group that a condition tells. -/
def conditionGroup (name : List Char) : Reader Nat := do
  let s ← get
  let back := name.length + 1
  if isIdentifier name then
    match s.names.lookup name with
    | some n => return n
    | none => malformed (.unknownGroup name) back
  else
    match groupNumber? name with
    | none => malformed (.badGroupName name) back
    | some n =>
      if n = 0 then malformed .groupZero back
      if groupLimit ≤ n then malformed (.noGroup n) back
      set { s with conditions := (n, s.position - back) :: s.conditions }
      return n

/-- A group can have the name that has been read. -/
def checkGroupName (name : List Char) : Reader Unit := do
  if !isIdentifier name then malformed (.badGroupName name) (name.length + 1)

/-- A reference to a group by name. -/
def readNamedReference : Reader Node := do
  let name ← takeName .groupName ')'
  checkGroupName name
  match (← get).names.lookup name with
  | none => malformed (.unknownGroup name) (name.length + 1)
  | some n =>
    checkReference n (name.length + 1)
    return .reference n

/-- A look behind begins here; gives the number of the first group that a look behind around it must
    not refer to. -/
def beginBehind : Reader (Option Nat) := do
  let s ← get
  set { s with behindLimit := s.behindLimit <|> some (groupCount s) }
  return s.behindLimit

/-- A look behind ends here. -/
def endBehind (outer : Option Nat) : Reader Unit := modify fun s => { s with behindLimit := outer }

/-- Takes the next mark, unless a sequence ends before it. -/
def takeMark : Reader (Option Mark) := do
  match ← peek with
  | none => return none
  | some m =>
    if m = .plain '|' || m = .plain ')' then return none
    skip 1
    return some m

/-- The parenthesis at the end of a group. That it is missing shows where the group begins. -/
def readGroupEnd (start : Nat) : Reader Unit := do
  if !(← accept ')') then malformedAt start (.missing .groupEnd)

section

variable (f : Facilities)

mutual

/-- Branches separated by bars. -/
def readChoice : Nat → Nat → Bool → Bool → Reader Node
  | 0, _, _, _ => malformed .unexpectedEnd 0
  | fuel + 1, room, verbose, top => do
    let first ← readSequence fuel room verbose top []
    let rest ← readBranches fuel room verbose top
    return choiceNode (first :: rest)

/-- The branches after the first one. -/
def readBranches : Nat → Nat → Bool → Bool → Reader (List Node)
  | 0, _, _, _ => malformed .unexpectedEnd 0
  | fuel + 1, room, verbose, top => do
    if ← accept '|' then
      let s ← get
      let verbose := if top then s.options.verbose else verbose
      let n ← readSequence fuel room verbose false []
      return n :: (← readBranches fuel room verbose top)
    else return []

/-- Nodes up to a bar, a closing parenthesis or the end; `acc` holds those read so far, last
    first. Options for the whole pattern may stand at its very start. -/
def readSequence : Nat → Nat → Bool → Bool → List Node → Reader Node
  | 0, _, _, _, _ => malformed .unexpectedEnd 0
  | fuel + 1, room, verbose, atStart, acc => do
    let start := (← get).position
    let go (acc : List Node) : Reader Node := readSequence fuel room verbose atStart acc
    match ← takeMark with
    | none => return .sequence (acc.reverse.flatMap unwrapped)
    | some (.escaped c) => go ((← readEscape f.characterNamed c) :: acc)
    | some (.plain c) => do
      if verbose && isVerboseBlank c then go acc
      else if verbose && c = '#' then
        let _ ← skipPast '\n'
        go acc
      else if c = '[' then go ((← readClass f.characterNamed start) :: acc)
      else if c = '.' then go (.any :: acc)
      else if c = '^' then go (.anchor .lineStart :: acc)
      else if c = '$' then go (.anchor .lineEnd :: acc)
      else if c = '?' then go (← repeatLast start (0, some 1) acc)
      else if c = '*' then go (← repeatLast start (0, none) acc)
      else if c = '+' then go (← repeatLast start (1, none) acc)
      else if c = '\x7b' then
        match ← readBounds with
        | some bounds => go (← repeatLast start bounds acc)
        | none => go (.one false c.toNat :: acc)
      else if c = '(' then
        if ← accept '?' then readExtension fuel room start verbose atStart acc
        else go ((← readCapture fuel room start verbose none) :: acc)
      else go (.one false c.toNat :: acc)

/-- A choice and the closing parenthesis after it. -/
def readGroupBody : Nat → Nat → Nat → Bool → Reader Node
  | 0, _, _, _ => malformed .unexpectedEnd 0
  | fuel + 1, room, start, verbose => do
    let body ← within room 2 fun left => readChoice fuel left verbose false
    readGroupEnd start
    return body

/-- A group that captures, with its name if it has one. -/
def readCapture : Nat → Nat → Nat → Bool → Option (List Char) → Reader Node
  | 0, _, _, _, _ => malformed .unexpectedEnd 0
  | fuel + 1, room, start, verbose, name => do
    let n ← openGroup name
    let body ← readGroupBody fuel room start verbose
    within room body.widthDepth fun _ => closeGroup n body
    return .group (some n) {} {} body

/-- A group that looks behind, whose sign has been read. -/
def readBehind : Nat → Nat → Nat → Bool → Bool → Reader Node
  | 0, _, _, _, _ => malformed .unexpectedEnd 0
  | fuel + 1, room, start, verbose, negated => do
    let outer ← beginBehind
    let body ← readGroupBody fuel room start verbose
    endBehind outer
    return .lookBehind negated (body.width (widthTable (← get))) body

/-- A group with a condition, whose opening parentheses have been read. -/
def readConditional : Nat → Nat → Nat → Bool → Reader Node
  | 0, _, _, _ => malformed .unexpectedEnd 0
  | fuel + 1, room, start, verbose => do
    let n ← conditionGroup (← takeName .groupName ')')
    checkBehind n
    let yes ← within room 1 fun left => readSequence fuel left verbose false []
    let no ← if ← accept '|' then within room 1 fun left => readSequence fuel left verbose false []
      else pure (.sequence [])
    if (← peek) = some (.plain '|') then malformed .thirdBranch 0
    readGroupEnd start
    return .conditional n yes no

/-- A group that begins with a parenthesis and a question mark, and what follows it. -/
def readExtension : Nat → Nat → Nat → Bool → Bool → List Node → Reader Node
  | 0, _, _, _, _, _ => malformed .unexpectedEnd 0
  | fuel + 1, room, start, verbose, atStart, acc => do
    let go (acc : List Node) : Reader Node := readSequence fuel room verbose atStart acc
    let unknown (text : List Char) : Reader Node :=
      malformedAt (start + 1) (.unknownExtension ('?' :: text))
    match ← next with
    | none => malformed .unexpectedEnd 0
    | some (.escaped c) => unknown ['\\', c]
    | some (.plain c) => do
      if c = 'P' then
        if ← accept '<' then
          let name ← takeName .groupName '>'
          checkGroupName name
          go ((← readCapture fuel room start verbose (some name)) :: acc)
        else if ← accept '=' then go ((← readNamedReference) :: acc)
        else
          match ← next with
          | none => malformed .unexpectedEnd 0
          | some m => unknown ('P' :: m.chars)
      else if c = ':' then go (.group none {} {} (← readGroupBody fuel room start verbose) :: acc)
      else if c = '#' then
        if ← skipPast ')' then go acc else malformedAt start (.missing .commentEnd)
      else if c = '=' then go (.lookAhead false (← readGroupBody fuel room start verbose) :: acc)
      else if c = '!' then go (.lookAhead true (← readGroupBody fuel room start verbose) :: acc)
      else if c = '<' then
        match ← next with
        | none => malformed .unexpectedEnd 0
        | some m =>
          if m = .plain '=' then go ((← readBehind fuel room start verbose false) :: acc)
          else if m = .plain '!' then go ((← readBehind fuel room start verbose true) :: acc)
          else unknown ('<' :: m.chars)
      else if c = '(' then go ((← readConditional fuel room start verbose) :: acc)
      else if c = '>' then go (.atomic (← readGroupBody fuel room start verbose) :: acc)
      else if isOption c || c = '-' then
        match ← readGroupOptions c with
        | none =>
          if !(atStart && acc.isEmpty) then malformedAt start .lateOptions
          readSequence fuel room (← get).options.verbose atStart acc
        | some (on, off) =>
          let inner := (verbose || on.verbose) && !off.verbose
          go (.group none on off (← readGroupBody fuel room start inner) :: acc)
      else unknown [c]

end

end

end SourceCensus.Pattern
