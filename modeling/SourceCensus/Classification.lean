import SourceCensus.Mask
import SourceCensus.Rule.Word
import SourceCensus.Rule.Assignment
import SourceCensus.Rule.Declaration

/-! # Classification

    The constructs of a masked text are found by fourteen rules, each of which searches the
    whole text on its own and yields a token for every occurrence, on the line where the
    occurrence begins. Two more kinds of token see to it that every line is covered: an
    empty-line token for a line without word characters on which nothing was removed, and an
    other token for every line that no token is on.

    `tokenize` runs everything on a raw text: comment tokens, string tokens, the tokens of
    each rule in rule order, empty lines, other lines.
-/

namespace SourceCensus

open Text

/-! ## Rules -/

/-- A kind of token and how it is recognised. -/
structure Rule where
  /-- Kind of the tokens that the rule yields. -/
  kind : TokenKind
  /-- What it looks for. -/
  recogniser : Recogniser

namespace Rule

/-- The rules in their order. -/
def all : List Rule :=
  [⟨.ifElse, branchWord⟩,
   ⟨.doWhile, wholeWord ["do", "while"]⟩,
   ⟨.switchCase, wholeWord ["switch", "case"]⟩,
   ⟨.forLoop, wholeWord ["for", "foreach"]⟩,
   ⟨.classOrStruct, wholeWord ["class", "struct"]⟩,
   ⟨.interfaceType, wholeWord ["interface"]⟩,
   ⟨.tryCatchFinally, wholeWord ["try", "catch", "finally"]⟩,
   ⟨.usingImport, wholeWord ["using", "import"]⟩,
   ⟨.returnStatement, wholeWord ["return"]⟩,
   ⟨.instantiation, wholeWord ["new"]⟩,
   ⟨.assignment, assignment⟩,
   ⟨.property, property⟩,
   ⟨.fieldOrLocal, fieldOrLocal⟩,
   ⟨.method, method⟩]

/-- The tokens of one rule in a text. -/
def tokens (rule : Rule) (index : LineIndex) (t : Text) : List Token :=
  (rule.recogniser.occurrences t).map fun (offset : Nat) =>
    { line := index.lineOf offset, kind := rule.kind }

end Rule

/-! ## Covering every line -/

/-- The numbers of the lines that tokens are on. -/
def occupiedLines (tokens : List Token) : List Int := tokens.map Token.line

/-- One empty-line token for every line without word characters on which no removed token is. An
    empty text has no lines. -/
def emptyLines (t : Text) (removed : List Token) : List Token :=
  if t.isEmpty then []
  else
    let occupied := occupiedLines removed
    (t.lines.zipIdx 1).filterMap fun (line, number) =>
      if occupied.contains (number : Int) || line.any isWord then none
      else some { line := number, kind := .emptyLine }

/-- One other token for every line from one to `lineCount` that no token is on. -/
def otherLines (lineCount : Int) (tokens : List Token) : List Token :=
  let occupied := occupiedLines tokens
  (List.range lineCount.toNat).filterMap fun (i : Nat) =>
    if occupied.contains ((i : Int) + 1) then none
    else some { line := (i : Int) + 1, kind := .other }

/-! ## The whole -/

/-- The tokens of a masked text. Where no line count is given, it is that of the text itself. -/
def classify (t : Text) (removed : List Token) (lineCount : Option Int) : List Token :=
  let total := lineCount.getD t.countLines
  let index := LineIndex.ofText t
  let found := Rule.all.flatMap fun rule => rule.tokens index t
  let covered := found ++ emptyLines t removed
  covered ++ otherLines total (covered ++ removed)

/-- All tokens of a raw text. -/
def tokenize (t : Text) : List Token :=
  let masked := Masked.ofText t
  masked.tokens
    ++ classify masked.text masked.tokens (some (countLines t.normalizeNewlines))

end SourceCensus
