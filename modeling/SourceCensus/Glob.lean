import SourceCensus.Text.Blank
import SourceCensus.Text.Line

/-! # Globs

    A glob is a pattern for the names of files: a star stands for any text, a question mark
    for any one character, and a bracket for one character of a class. All other characters
    stand for themselves, a slash among them.

    ## Brackets

    The class ends at the first closing bracket that is not its first character, a leading
    exclamation mark aside; a bracket that is never closed stands for itself. A hyphen
    between two characters makes a range. A range that runs backwards is empty: it vanishes
    with both its ends. A class that is left with nothing holds no character, and one that is
    left with its exclamation mark alone holds every character.

    ## Matching

    `accepts` asks for the whole name. `found` asks for some ending of it, which is all that
    a rule of an ignore file looks at.
-/

namespace SourceCensus

/-- One element of a glob. -/
inductive Glob.Part where
  /-- Any text, also the empty one. -/
  | anyText
  /-- Any one character. -/
  | anyChar
  /-- The character itself. -/
  | char (c : Char)
  /-- One character that lies in one of the ranges, or in none of them. -/
  | oneOf (negated : Bool) (ranges : List (Char × Char))
  deriving DecidableEq, Repr

/-- A pattern for names. -/
abbrev Glob := List Glob.Part

namespace Glob

/-! ## Classes -/

/-- The body of a class and the text behind its closing bracket, from the text behind the
    opening one. -/
def splitClass? (t : Text) : Option (Text × Text) :=
  let lead := match t with
    | '!' :: ']' :: _ => 2
    | '!' :: _ => 1
    | ']' :: _ => 1
    | _ => 0
  match (t.drop lead).dropWhile (· ≠ ']') with
  | [] => none
  | _ :: after => some (t.take lead ++ (t.drop lead).takeWhile (· ≠ ']'), after)

/-- Cuts a class at the hyphens that make ranges. A piece has at least `least` more characters
    before the next hyphen can cut; a hyphen at the end stays with its piece. -/
def cutRanges (least : Nat) (piece : Text) : Text → List Text
  | [] => [piece]
  | c :: rest =>
    if least = 0 && c = '-' then
      if rest.isEmpty then [piece ++ ['-']] else piece :: cutRanges 2 [] rest
    else cutRanges (least - 1) (piece ++ [c]) rest

/-- Joins the pieces around each hyphen whose range runs backwards, from the right. -/
def dropBackward : List Text → List Text
  | [] => []
  | p :: ps =>
    match dropBackward ps with
    | [] => [p]
    | q :: qs =>
      match p.getLast?, q.head? with
      | some a, some b => if b < a then (p.dropLast ++ q.tail) :: qs else p :: q :: qs
      | _, _ => p :: q :: qs

/-- A character as a range. -/
def single (c : Char) : Char × Char := (c, c)

/-- The ranges of a class from its pieces: the last character of a piece and the first one of
    the next are the ends of a range. A hyphen with nothing before it stands for itself. -/
def rangesOf (p : Text) : List Text → List (Char × Char)
  | [] => p.map single
  | q :: qs =>
    match p.getLast?, q.head? with
    | some a, some b => p.dropLast.map single ++ (a, b) :: rangesOf q.tail qs
    | _, _ => single '-' :: p.map single ++ rangesOf q qs

/-- The element that the body of a class stands for. -/
def classPart (body : Text) : Part :=
  let least := if body.head? = some '!' then 2 else 1
  match dropBackward (cutRanges least [] body) with
  | [] => .oneOf false []
  | ('!' :: p) :: ps => .oneOf true (rangesOf p ps)
  | p :: ps => .oneOf false (rangesOf p ps)

/-! ## Reading -/

/-- Reads at most `fuel` elements. Stars in a row are one star. -/
def readParts : Nat → Text → Glob
  | 0, _ => []
  | _, [] => []
  | fuel + 1, c :: rest =>
    if c = '*' then
      if rest.head? = some '*' then readParts fuel rest else .anyText :: readParts fuel rest
    else if c = '?' then .anyChar :: readParts fuel rest
    else if c = '[' then
      match splitClass? rest with
      | some (body, after) => classPart body :: readParts fuel after
      | none => .char c :: readParts fuel rest
    else .char c :: readParts fuel rest

/-- The glob that a text stands for. Every text is a glob; an element takes at least one
    character. -/
def ofText (t : Text) : Glob := readParts t.length t

/-! ## Matching -/

/-- A character lies in one of the ranges. -/
def inRanges (ranges : List (Char × Char)) (c : Char) : Bool :=
  ranges.any fun r => r.1 ≤ c && c ≤ r.2

/-- An element that stands for one character stands for this one. -/
def Part.holds : Part → Char → Bool
  | .anyText, _ => false
  | .anyChar, _ => true
  | .char d, c => c = d
  | .oneOf negated ranges, c => inRanges ranges c != negated

/-- Some ending of the name satisfies a test. -/
def someEnding (test : Text → Bool) : Text → Bool
  | [] => test []
  | c :: rest => test (c :: rest) || someEnding test rest

/-- The glob stands for the whole name. -/
def accepts : Glob → Text → Bool
  | [], name => name.isEmpty
  | .anyText :: ps, name => someEnding (accepts ps) name
  | p :: ps, name =>
    match name with
    | [] => false
    | c :: rest => p.holds c && accepts ps rest

/-- The glob stands for some ending of the name. -/
def found (g : Glob) (name : Text) : Bool := someEnding g.accepts name

/-! ## Ignore files -/

/-- The rules of an ignore file, line by line: white space around a rule and slashes at its ends
    do not count, and neither does a line that is empty, a comment, or a negated rule. -/
def ofIgnoreFile (t : Text) : List Glob :=
  (t.normalizeNewlines.lines.map Text.strip).filterMap fun line =>
    match line with
    | [] => none
    | c :: _ => if c = '#' || c = '!' then none else some (ofText (Text.trim (· = '/') line))

end Glob

end SourceCensus
