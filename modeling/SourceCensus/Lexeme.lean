import SourceCensus.Text.Line

/-! # Lexemes

    A source text is read from left to right. Where a character literal, a string literal
    or a comment begins, it is taken whole, so that a delimiter counts only outside the
    other lexemes: two slashes in a string begin no comment, and a quote in a comment
    begins no string. Everything else is passed over one character at a time.

    ## Parts

    A lexeme is an opener, a body and a closer, and these three make up its text:

    - a character literal stands between apostrophes and holds one character, or a
      backslash, a character and at most eight more; it never crosses a line;
    - a basic string opens with a quote or a dollar and a quote, and a backslash takes the
      next character into the body whatever it is;
    - a verbatim string has an at sign in its opener, and a doubled quote belongs to the
      body;
    - a line comment has no closer, and a block comment is closed by its first star and
      slash.

    A string or block comment that is never closed runs to the end of the text.

    ## Scans

    `Lexeme.all` finds all lexemes; `Lexeme.literals` looks for character and string
    literals only.
-/

namespace SourceCensus

/-- The kinds of lexeme. -/
inductive LexemeKind where
  | charLiteral
  | stringLiteral
  | comment
  deriving DecidableEq, Repr

/-- A stretch of text that is taken whole. -/
structure Lexeme where
  /-- What the stretch is. -/
  kind : LexemeKind
  /-- The delimiter that begins it. -/
  opener : Text
  /-- What stands between the delimiters. -/
  body : Text
  /-- The delimiter that ends it; empty where there is none. -/
  closer : Text
  deriving DecidableEq, Repr

namespace Lexeme

/-- The characters of a lexeme. -/
def text (l : Lexeme) : Text := l.opener ++ l.body ++ l.closer

/-- Number of characters of a lexeme. -/
def size (l : Lexeme) : Nat := l.opener.length + l.body.length + l.closer.length

/-! ## Delimiters -/

/-- The mark around a character literal. -/
def apostrophe : Char := '\x27'

/-- The mark around a string literal. -/
def quote : Char := '\x22'

/-- The mark that takes the next character into a literal. -/
def backslash : Char := '\x5c'

/-! ## Character literals -/

/-- What stands before the next apostrophe: at most `limit` characters of one line. -/
def beforeApostrophe? : Nat → Text → Option Text
  | _, [] => none
  | 0, c :: _ => if c = apostrophe then some [] else none
  | limit + 1, c :: rest =>
    if c = apostrophe then some []
    else if c = '\n' then none
    else (beforeApostrophe? limit rest).map (c :: ·)

/-- The body of a character literal whose opener has been read. -/
def charBody? : Text → Option Text
  | [] => none
  | c :: rest =>
    if c = backslash then
      match rest with
      | [] => none
      | d :: more =>
        if d = '\n' then none else (beforeApostrophe? 8 more).map fun tail => c :: d :: tail
    else if c = apostrophe || c = '\n' then none
    else if rest.head? = some apostrophe then some [c]
    else none

/-- The character literal that begins a text. -/
def readChar? : Text → Option Lexeme
  | [] => none
  | c :: rest =>
    if c = apostrophe then
      (charBody? rest).map fun body => ⟨.charLiteral, [c], body, [apostrophe]⟩
    else none

/-! ## String literals -/

/-- The body of a verbatim string: all up to a quote that is not doubled. -/
def verbatimBody : Text → Text
  | [] => []
  | [c] => if c = quote then [] else [c]
  | c :: d :: rest =>
    if c = quote then
      if d = quote then c :: d :: verbatimBody rest else []
    else c :: verbatimBody (d :: rest)

/-- The body of a basic string: all up to a quote that no backslash takes in. -/
def basicBody : Text → Text
  | [] => []
  | [c] => if c = quote then [] else [c]
  | c :: d :: rest =>
    if c = quote then []
    else if c = backslash then c :: d :: basicBody rest
    else c :: basicBody (d :: rest)

/-- A string with a given opener; a closing quote follows the body unless the text ends there. -/
def ofStringBody (opener body after : Text) : Lexeme :=
  ⟨.stringLiteral, opener, body, (after.drop body.length).take 1⟩

/-- The string literal that begins a text. -/
def readString? : Text → Option Lexeme
  | a :: rest =>
    if a = quote then some (ofStringBody [a] (basicBody rest) rest)
    else match rest with
      | b :: more =>
        if a = '@' && b = quote then some (ofStringBody [a, b] (verbatimBody more) more)
        else if a = '$' && b = quote then some (ofStringBody [a, b] (basicBody more) more)
        else match more with
          | c :: after =>
            if ((a = '$' && b = '@') || (a = '@' && b = '$')) && c = quote then
              some (ofStringBody [a, b, c] (verbatimBody after) after)
            else none
          | [] => none
      | [] => none
  | [] => none

/-! ## Comments -/

/-- The body of a block comment: all up to the first star that a slash follows. -/
def blockBody : Text → Text
  | [] => []
  | [c] => [c]
  | c :: d :: rest => if c = '*' && d = '/' then [] else c :: blockBody (d :: rest)

/-- The comment that begins a text. -/
def readComment? : Text → Option Lexeme
  | a :: b :: rest =>
    if a = '/' && b = '/' then some ⟨.comment, [a, b], rest.takeWhile (· ≠ '\n'), []⟩
    else if a = '/' && b = '*' then
      let body := blockBody rest
      some ⟨.comment, [a, b], body, (rest.drop body.length).take 2⟩
    else none
  | _ => none

/-! ## Scans -/

/-- The character or string literal that begins a text. -/
def readLiteral? (t : Text) : Option Lexeme := readChar? t <|> readString? t

/-- The lexeme of any kind that begins a text. -/
def read? (t : Text) : Option Lexeme := readLiteral? t <|> readComment? t

/-- A lexeme and the offset at which it begins. -/
structure Placed where
  /-- Offset of the first character of the opener. -/
  start : Nat
  /-- The lexeme itself. -/
  lexeme : Lexeme
  deriving DecidableEq, Repr

namespace Placed

/-- Offset just after the lexeme. -/
def stop (p : Placed) : Nat := p.start + p.lexeme.size

/-- Offset of the first character of the body. -/
def bodyStart (p : Placed) : Nat := p.start + p.lexeme.opener.length

/-- The offsets that the lexeme covers, the second one exclusive. -/
def span (p : Placed) : Nat × Nat := (p.start, p.stop)

end Placed

/-- The lexemes that a reader finds from left to right in a text that begins at `offset`. A
    lexeme covers at least one character. -/
def scanFrom (read : Text → Option Lexeme) (offset : Nat) : Text → List Placed
  | [] => []
  | c :: rest =>
    match read (c :: rest) with
    | none => scanFrom read (offset + 1) rest
    | some l => ⟨offset, l⟩ :: scanFrom read (offset + 1 + (l.size - 1)) (rest.drop (l.size - 1))
termination_by t => t.length
decreasing_by all_goals simp +arith

/-- All lexemes of a text. -/
def all (t : Text) : List Placed := scanFrom read? 0 t

/-- The character and string literals of a text in which comments mean nothing. -/
def literals (t : Text) : List Placed := scanFrom readLiteral? 0 t

end Lexeme

end SourceCensus
