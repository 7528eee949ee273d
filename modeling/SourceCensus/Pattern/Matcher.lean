import SourceCensus.Pattern.Compile
import SourceCensus.Pattern.Letter

/-! # Matching and searching

    A pattern is matched at a place by trying its alternatives in order; each part is given
    what is to be matched after it, and the first alternative for which that succeeds is
    taken. So an alternative is given up as soon as the rest of the pattern cannot follow.

    ## Repetition

    A repetition first makes the rounds that it has to make. A round beyond these begins only
    where the round before it did not begin, so a round that takes no character is not
    repeated. The number of rounds is bounded by those that must be made and the characters
    that are left, which is what the count of the loop says.

    ## Finality

    An atomic group, a look and each round of a possessive repetition are matched on their
    own, with nothing to follow, and their first match is final.
-/

namespace SourceCensus.Pattern

/-! ## Places -/

/-- How far matching has come. -/
structure Place where
  /-- Number of characters before the place. -/
  position : Nat
  /-- Where groups began and ended, by twice the number of the group and one less for its
      beginning. -/
  bounds : List (Nat × Nat) := []

/-- What is to be matched next. -/
abbrev Next := Place → Option Place

namespace Place

/-- The place some characters further on. -/
def advance (p : Place) (count : Nat) : Place := { p with position := p.position + count }

/-- Notes a bound of a group. -/
def note (p : Place) (index : Nat) : Place :=
  { p with bounds := (index, p.position) :: p.bounds.filter fun b => b.1 ≠ index }

/-- Where a group began and ended, if it matched. -/
def group? (p : Place) (n : Nat) : Option (Nat × Nat) := do
  let start ← p.bounds.lookup (2 * n - 1)
  let stop ← p.bounds.lookup (2 * n)
  if stop < start then none else some (start, stop)

end Place

/-! ## Anchors -/

/-- The character at a position is a word character. -/
def wordAt (o : Options) (t : Array Char) (i : Nat) : Bool :=
  match t[i]? with
  | some c => CharKind.word.holds o.isAscii c.toNat
  | none => false

/-- A position lies between a word character and another one. -/
def atBoundary (o : Options) (t : Array Char) (i : Nat) : Bool :=
  (0 < i && wordAt o t (i - 1)) != wordAt o t i

/-- An anchor holds at a position. In an empty text there are neither boundaries nor places
    that are none. -/
def Anchor.holds (o : Options) (t : Array Char) (i : Nat) : Anchor → Bool
  | .textStart => i = 0
  | .textEnd => i = t.size
  | .lineStart => i = 0 || (o.multiline && t[i - 1]? = some '\n')
  | .lineEnd =>
    i = t.size || (t[i]? = some '\n' && (o.multiline || i + 1 = t.size))
  | .wordBoundary => !t.isEmpty && atBoundary o t i
  | .noBoundary => !t.isEmpty && !atBoundary o t i

/-! ## Repetition -/

/-- Rounds of a repetition, as many as possible first. -/
def greedyRounds (round : Next → Next) (most : Option Nat) (next : Next) :
    Nat → Nat → Nat → Option Nat → Next
  | 0, _, _, _, _ => none
  | fuel + 1, least, made, last, p =>
    if made < least then round (greedyRounds round most next fuel least (made + 1) last) p
    else if most.all (made < ·) && last ≠ some p.position then
      round (greedyRounds round most next fuel least (made + 1) (some p.position)) p <|> next p
    else next p

/-- Rounds of a repetition, as few as possible first. -/
def lazyRounds (round : Next → Next) (most : Option Nat) (next : Next) :
    Nat → Nat → Nat → Option Nat → Next
  | 0, _, _, _, _ => none
  | fuel + 1, least, made, last, p =>
    if made < least then round (lazyRounds round most next fuel least (made + 1) last) p
    else
      next p <|>
        (if most.all (made < ·) && last ≠ some p.position then
          round (lazyRounds round most next fuel least (made + 1) (some p.position)) p
        else none)

/-- Rounds of a repetition, each of them final. -/
def possessiveRounds (round : Next → Next) (most : Option Nat) :
    Nat → Nat → Nat → Option Nat → Next
  | 0, _, _, _, _ => none
  | fuel + 1, least, made, last, p =>
    if made < least then
      match round some p with
      | some q => possessiveRounds round most fuel least (made + 1) last q
      | none => none
    else if most.all (made < ·) && last ≠ some p.position then
      match round some p with
      | some q => possessiveRounds round most fuel least (made + 1) (some p.position) q
      | none => some p
    else some p

/-! ## Nodes -/

/-- Takes one character if it passes a test. -/
def takeOne (t : Array Char) (test : Nat → Bool) (next : Next) : Next := fun p =>
  match t[p.position]? with
  | some c => if test c.toNat then next (p.advance 1) else none
  | none => none

/-- Takes again the characters that a group matched. -/
def takeAgain (o : Options) (t : Array Char) (n : Nat) (next : Next) : Next := fun p =>
  match p.group? n with
  | none => none
  | some (start, stop) =>
    let size := stop - start
    let same := (List.range size).all fun i =>
      match t[start + i]?, t[p.position + i]? with
      | some a, some b => sameChar o a.toNat b.toNat
      | _, _ => false
    if same then next (p.advance size) else none

mutual

/-- Matches a node at a place and then what is next. -/
def matchNode (t : Array Char) (o : Options) : Node → Next → Next
  | .one negated c, next => takeOne t (fun d => oneHolds o c d != negated) next
  | .any, next => takeOne t (fun d => o.dotAll || d ≠ 10) next
  | .oneOf negated items, next => takeOne t (fun d => classHolds o items d != negated) next
  | .anchor a, next => fun p => if a.holds o t p.position then next p else none
  | .group capture on off body, next =>
    let inner := (o.union on).diff off
    match capture with
    | none => matchNode t inner body next
    | some n => fun p =>
      matchNode t inner body (fun q => next (q.note (2 * n))) (p.note (2 * n - 1))
  | .atomic body, next => fun p =>
    match matchNode t o body some p with
    | some q => next q
    | none => none
  | .lookAhead negated body, next => fun p =>
    match matchNode t o body some p with
    | some q => if negated then none else next { q with position := p.position }
    | none => if negated then next p else none
  | .lookBehind negated width body, next => fun p =>
    let found := if width.least ≤ p.position then
        matchNode t o body some { p with position := p.position - width.least }
      else none
    match found with
    | some q => if negated then none else next { q with position := p.position }
    | none => if negated then next p else none
  | .reference n, next => takeAgain o t n next
  | .conditional n yes no, next => fun p =>
    if (p.group? n).isSome then matchNode t o yes next p else matchNode t o no next p
  | .repeated greed least most body, next => fun p =>
    let round := matchNode t o body
    let fuel := least + (t.size - p.position) + 2
    match greed with
    | .greedy => greedyRounds round most next fuel least 0 none p
    | .lazy => lazyRounds round most next fuel least 0 none p
    | .possessive =>
      match possessiveRounds round most fuel least 0 none p with
      | some q => next q
      | none => none
  | .sequence items, next => matchSequence t o items next
  | .choice branches, next => matchChoice t o branches next

/-- Matches nodes one after the other and then what is next. -/
def matchSequence (t : Array Char) (o : Options) : List Node → Next → Next
  | [], next => next
  | n :: ns, next => matchNode t o n (matchSequence t o ns next)

/-- Matches the first of several nodes for which what is next succeeds. -/
def matchChoice (t : Array Char) (o : Options) : List Node → Next → Next
  | [], _ => fun _ => none
  | n :: ns, next => fun p => matchNode t o n next p <|> matchChoice t o ns next p

end

/-! ## Where a match may begin -/

/-- A member of a class is a named class. -/
def ClassItem.isNamed : ClassItem → Bool
  | .kind _ _ => true
  | _ => false

/-- A member of a class may admit a character for its case. -/
def ClassItem.folds (ascii : Bool) : ClassItem → Bool
  | .one c => Pattern.isCased ascii c
  | .range low high => planeEnd < high || rangeIsCased ascii low high
  | .kind _ _ => false

/-- A class: whether it is negated, and its members. -/
abbrev CharClass := Bool × List ClassItem

/-- The first node of a sequence, also of one within another. -/
def firstNode? : Node → Option Node
  | .sequence items => firstOf items
  | n => some n
where
  /-- The first node of several. -/
  firstOf : List Node → Option Node
    | [] => none
    | n :: ns => firstNode? n <|> firstOf ns

/-- The class that a node is. -/
def classOf? : Node → Option CharClass
  | .oneOf negated items => some (negated, items)
  | _ => none

/-- The members that a branch adds to a class when it is one character or one class. -/
def branchItems? : Node → Option (List ClassItem)
  | .one false c => some [.one c]
  | .oneOf false items => some items
  | .sequence [n] => branchItems? n
  | _ => none

/-- The class that several branches begin with: the same class in each of them, or all their
    characters when each branch is a character or a class. -/
def branchesClass? (branches : List Node) : Option CharClass :=
  let firsts := branches.map fun b => (firstNode? b).bind classOf?
  match firsts with
  | some c :: rest =>
    if rest.all (· = some c) then some c
    else (branches.mapM branchItems?).map fun items => (false, items.flatten)
  | _ => (branches.mapM branchItems?).map fun items => (false, items.flatten)

/-- The class that a pattern begins with, inside its groups. There is none when case matters
    to it. -/
def firstClass? : Nat → Options → Node → Option CharClass
  | 0, _, _ => none
  | fuel + 1, o, n =>
    match firstNode? n with
    | some (.group _ on off body) => firstClass? fuel ((o.union on).diff off) body
    | some (.oneOf negated items) => keep o (negated, items)
    | some (.choice branches) => (branchesClass? branches).bind (keep o)
    | _ => none
where
  /-- The class, unless case matters to it. -/
  keep (o : Options) (c : CharClass) : Option CharClass :=
    if o.ignoreCase && c.2.any (ClassItem.folds o.isAscii) then none else some c

/-- The class of the characters at which a match may begin: that with which the pattern begins,
    if it has named members and the pattern takes a character at least. -/
def Compiled.beginning? (c : Compiled) : Option CharClass :=
  if c.least = 0 then none
  else (firstClass? c.source.length c.options c.node).filter (·.2.any ClassItem.isNamed)

/-- A match may begin at a position. The named members of the class are taken in the alphabet of
    the whole pattern, whatever the alphabet of the group that the class is in. -/
def mayBegin (o : Options) (beginning : Option CharClass) (t : Array Char) (i : Nat) : Bool :=
  match beginning with
  | none => true
  | some (negated, items) =>
    t[i]?.any fun c => items.any (ClassItem.admits o.isAscii c.toNat) != negated

/-! ## Searching -/

/-- The pattern matches somewhere in a text. -/
def Compiled.search (c : Compiled) (text : String) : Bool :=
  let t := text.toList.toArray
  let beginning := c.beginning?
  (List.range (t.size + 1)).any fun i =>
    mayBegin c.options beginning t i && (matchNode t c.options c.node some { position := i }).isSome

end SourceCensus.Pattern
