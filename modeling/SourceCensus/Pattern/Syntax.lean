/-! # The syntax of search patterns

    A pattern is built from single characters, character classes and anchors by sequence, choice,
    repetition and grouping; it may look ahead and behind, refer back to what a group matched, and
    commit to a match by atomic groups and possessive repetition.

    ## Widths

    Every pattern has a least and a greatest number of characters that it matches. Looking behind
    needs the two to be equal, since it begins that many characters before.
-/

namespace SourceCensus.Pattern

/-! ## Options -/

/-- Which characters count as letters and digits. -/
inductive Alphabet where
  | ascii
  | unicode
  deriving DecidableEq, Repr

/-- Options that change how a pattern is matched. -/
structure Options where
  /-- Letters match in either case. -/
  ignoreCase : Bool := false
  /-- Line anchors match at every line. -/
  multiline : Bool := false
  /-- The point matches a line feed too. -/
  dotAll : Bool := false
  /-- Blanks and comments in the pattern mean nothing. -/
  verbose : Bool := false
  /-- Repetition is not allowed. -/
  template : Bool := false
  /-- The alphabet, if it was chosen. -/
  alphabet : Option Alphabet := none
  deriving DecidableEq, Repr

namespace Options

/-- Both sets of options together; a chosen alphabet replaces another one. -/
def union (a b : Options) : Options :=
  { ignoreCase := a.ignoreCase || b.ignoreCase
    multiline := a.multiline || b.multiline
    dotAll := a.dotAll || b.dotAll
    verbose := a.verbose || b.verbose
    template := a.template || b.template
    alphabet := b.alphabet <|> a.alphabet }

/-- The options without those of the second set. -/
def diff (a b : Options) : Options :=
  { a with
    ignoreCase := a.ignoreCase && !b.ignoreCase
    multiline := a.multiline && !b.multiline
    dotAll := a.dotAll && !b.dotAll
    verbose := a.verbose && !b.verbose }

/-- An option is in both sets. -/
def meets (a b : Options) : Bool :=
  (a.ignoreCase && b.ignoreCase) || (a.multiline && b.multiline) || (a.dotAll && b.dotAll)
    || (a.verbose && b.verbose)

/-- Letters and digits are those of ASCII. -/
def isAscii (o : Options) : Bool := o.alphabet = some .ascii

end Options

/-! ## Widths -/

/-- A least and a greatest number of characters. -/
structure Width where
  /-- Least number. -/
  least : Nat
  /-- Greatest number. -/
  most : Nat
  deriving DecidableEq, Repr

namespace Width

/-- The number that stands for any larger one. -/
def limit : Nat := 0x10000000000000000

/-- Numbers beyond the limit are all the same. -/
def capped (w : Width) : Width := ⟨min w.least limit, min w.most limit⟩

/-- The width of two patterns one after the other. -/
def add (v w : Width) : Width := ⟨v.least + w.least, v.most + w.most⟩

/-- The width of either of two patterns. -/
def either (v w : Width) : Width := ⟨min v.least w.least, max v.most w.most⟩

/-- The width of a repetition. -/
def times (w : Width) (least : Nat) (most : Option Nat) : Width :=
  ⟨w.least * least, match most with
    | some n => w.most * n
    | none => if w.most = 0 then 0 else limit⟩

end Width

/-! ## Nodes -/

/-- A named class of characters. -/
inductive CharKind where
  | digit
  | space
  | word
  deriving DecidableEq, Repr

/-- A member of a character class. -/
inductive ClassItem where
  /-- One code point. -/
  | one (c : Nat)
  /-- All code points between two. -/
  | range (low high : Nat)
  /-- A named class or all outside it. -/
  | kind (k : CharKind) (negated : Bool)
  deriving DecidableEq, Repr

/-- A place that matches without taking characters. -/
inductive Anchor where
  /-- The start of the text or of a line. -/
  | lineStart
  /-- The end of the text, before a last line feed, or the end of a line. -/
  | lineEnd
  /-- The start of the text. -/
  | textStart
  /-- The end of the text. -/
  | textEnd
  /-- Between a word character and another one. -/
  | wordBoundary
  /-- Anywhere else. -/
  | noBoundary
  deriving DecidableEq, Repr

/-- How a repetition decides between more and less. -/
inductive Greed where
  /-- As often as possible first. -/
  | greedy
  /-- As seldom as possible first. -/
  | lazy
  /-- As often as possible, for good. -/
  | possessive
  deriving DecidableEq, Repr

/-- A pattern. -/
inductive Node where
  /-- One code point, or any other one. -/
  | one (negated : Bool) (c : Nat)
  /-- Any character. -/
  | any
  /-- A character of a class, or one outside it. -/
  | oneOf (negated : Bool) (items : List ClassItem)
  /-- A place. -/
  | anchor (a : Anchor)
  /-- A group: its number if it captures, the options turned on and off inside, its body. -/
  | group (capture : Option Nat) (on off : Options) (body : Node)
  /-- A group whose first match is final. -/
  | atomic (body : Node)
  /-- The body matches from here on, or it does not. -/
  | lookAhead (negated : Bool) (body : Node)
  /-- The body, of a given width, matches that many characters before, or it does not. -/
  | lookBehind (negated : Bool) (width : Width) (body : Node)
  /-- The text that a group matched, once more. -/
  | reference (group : Nat)
  /-- One of two patterns, depending on whether a group matched. -/
  | conditional (group : Nat) (yes no : Node)
  /-- A pattern several times in a row. -/
  | repeated (greed : Greed) (least : Nat) (most : Option Nat) (body : Node)
  /-- Patterns one after the other. -/
  | sequence (items : List Node)
  /-- The first of several patterns that leads to a match. -/
  | choice (branches : List Node)
  deriving Inhabited

/-- The body of a group that neither captures nor changes options. -/
def Node.plainBody? : Node → Option Node
  | .group none on off body => if on = {} && off = {} then some body else none
  | _ => none

/-! ## Widths of nodes -/

mutual

/-- The width of a pattern, given the widths of the groups that it may refer to. -/
def Node.width (groups : Nat → Width) : Node → Width
  | .one _ _ => ⟨1, 1⟩
  | .any => ⟨1, 1⟩
  | .oneOf _ _ => ⟨1, 1⟩
  | .anchor _ => ⟨0, 0⟩
  | .group _ _ _ body => body.width groups
  | .atomic body => body.width groups
  | .lookAhead _ _ => ⟨0, 0⟩
  | .lookBehind _ _ _ => ⟨0, 0⟩
  | .reference n => groups n
  | .conditional _ yes no => (yes.width groups).either (no.width groups)
  | .repeated _ least most body => ((body.width groups).times least most).capped
  | .sequence items => (sequenceWidth groups items).capped
  | .choice branches => (choiceWidth groups branches).capped

/-- The width of patterns one after the other. -/
def sequenceWidth (groups : Nat → Width) : List Node → Width
  | [] => ⟨0, 0⟩
  | n :: ns => (n.width groups).add (sequenceWidth groups ns)

/-- The width of the first of several patterns that leads to a match. -/
def choiceWidth (groups : Nat → Width) : List Node → Width
  | [] => ⟨0, 0⟩
  | [n] => n.width groups
  | n :: ns => (n.width groups).either (choiceWidth groups ns)

end

mutual

/-- How many calls it takes to find the width of a node, beyond the first one: one for each body,
    but for what is looked at before or after a place. The width of a group that captures is
    known. -/
def Node.widthDepth : Node → Nat
  | .group capture _ _ body => if capture.isSome then 1 else body.widthDepth + 1
  | .atomic body => body.widthDepth + 1
  | .conditional _ yes no => max yes.widthDepth no.widthDepth + 1
  | .repeated _ _ _ body =>
    -- a group that is nothing but its body is repeated as the body
    if body.plainBody?.isSome then body.widthDepth else body.widthDepth + 1
  | .sequence items => widthDepthOfAll items
  | .choice branches => widthDepthOfAll branches + 1
  | _ => 0

/-- The same for several nodes. -/
def widthDepthOfAll : List Node → Nat
  | [] => 0
  | n :: ns => max n.widthDepth (widthDepthOfAll ns)

end

end SourceCensus.Pattern
