import SourceCensus.Lexeme
import SourceCensus.Token
import SourceCensus.Text.Span

/-! # Masking

    Comments and string literals are blanked out before constructs are looked for, so that
    no rule sees text inside them. Masking has two stages: the comments of a text first,
    then the string literals of what is left. Each stage keeps the length and the line
    layout, and reports one token for each lexeme it removed.

    A comment is described by the whole lexeme; a string literal by its body alone, though
    its delimiters are blanked as well. Character literals stay as they are.
-/

namespace SourceCensus

/-- A text with lexemes blanked out, and a token for each of them. -/
structure Masked where
  /-- The text after blanking. -/
  text : Text
  /-- What was removed. -/
  tokens : List Token
  deriving DecidableEq, Repr

namespace Masked

/-- The token of a comment: the line it starts on, the lines it covers and its size. -/
def commentToken (index : LineIndex) (p : Lexeme.Placed) : Token :=
  { line := index.lineOf p.start, kind := .comment
    span := p.lexeme.text.feeds + 1, length := some p.lexeme.size }

/-- The token of a string literal: the same data of its body. -/
def stringToken (index : LineIndex) (p : Lexeme.Placed) : Token :=
  { line := index.lineOf p.bodyStart, kind := .stringLiteral
    span := p.lexeme.body.feeds + 1, length := some p.lexeme.body.length }

/-- Blanks the lexemes of one kind and describes each of them. -/
def ofLexemes (kind : LexemeKind) (describe : LineIndex → Lexeme.Placed → Token)
    (lexemes : List Lexeme.Placed) (t : Text) : Masked :=
  let removed := lexemes.filter fun p => p.lexeme.kind = kind
  ⟨t.blank (removed.map Lexeme.Placed.span), removed.map (describe (LineIndex.ofText t))⟩

/-- The first stage: comments, with literals stepped over. -/
def comments (t : Text) : Masked := ofLexemes .comment commentToken (Lexeme.all t) t

/-- The second stage: string literals of a text whose comments are blank. -/
def strings (t : Text) : Masked := ofLexemes .stringLiteral stringToken (Lexeme.literals t) t

/-- Normalizes the line endings, then runs both stages; comment tokens come first. -/
def ofText (t : Text) : Masked :=
  let first := comments t.normalizeNewlines
  let second := strings first.text
  ⟨second.text, first.tokens ++ second.tokens⟩

end Masked

end SourceCensus
