import SourceCensus.Category

/-! # Tokens

    A token is one construct found on a line. Its kind is finer than the category it is
    counted under: eighteen kinds fall into fourteen categories.
-/

namespace SourceCensus

/-- What kind of construct a token stands for. -/
inductive TokenKind where
  | property
  | method
  | fieldOrLocal
  | ifElse
  | doWhile
  | switchCase
  | forLoop
  | classOrStruct
  | interfaceType
  | emptyLine
  | comment
  | stringLiteral
  | tryCatchFinally
  | usingImport
  | assignment
  | instantiation
  | returnStatement
  | other
  deriving DecidableEq, Repr, Inhabited

namespace TokenKind

/-- All kinds in their fixed order. -/
def all : List TokenKind :=
  [.property, .method, .fieldOrLocal, .ifElse, .doWhile, .switchCase, .forLoop, .classOrStruct,
   .interfaceType, .emptyLine, .comment, .stringLiteral, .tryCatchFinally, .usingImport,
   .assignment, .instantiation, .returnStatement, .other]

/-- Place of a kind in the fixed order. -/
def ordinal (k : TokenKind) : Nat := all.idxOf k

/-- The category a kind is counted under. -/
def category : TokenKind → Category
  | .property => .propertyMethod
  | .method => .propertyMethod
  | .fieldOrLocal => .fieldOrLocal
  | .ifElse => .ifSwitchCase
  | .switchCase => .ifSwitchCase
  | .doWhile => .whileForLoop
  | .forLoop => .whileForLoop
  | .classOrStruct => .classStructInterface
  | .interfaceType => .classStructInterface
  | .emptyLine => .emptyLine
  | .comment => .comment
  | .stringLiteral => .stringLiteral
  | .tryCatchFinally => .tryCatchFinally
  | .usingImport => .usingImport
  | .assignment => .assignment
  | .instantiation => .instantiation
  | .returnStatement => .returnStatement
  | .other => .other

/-- The name under which a kind is written in data. -/
def name : TokenKind → String
  | .property => "PROPERTY"
  | .method => "METHOD"
  | .fieldOrLocal => "FIELD_OR_LOCAL"
  | .ifElse => "IF_ELSE"
  | .doWhile => "DO_WHILE"
  | .switchCase => "SWITCH_CASE"
  | .forLoop => "FOR_LOOP"
  | .classOrStruct => "CLASS_OR_STRUCT"
  | .interfaceType => "INTERFACE"
  | .emptyLine => "EMPTY_LINE"
  | .comment => "COMMENT"
  | .stringLiteral => "STRING_LITERAL"
  | .tryCatchFinally => "TRY_CATCH_FINALLY"
  | .usingImport => "USING"
  | .assignment => "ASSIGNMENT"
  | .instantiation => "INSTANTIATION"
  | .returnStatement => "RETURN"
  | .other => "OTHER"

/-- The kind written under a name. -/
def ofName? (s : String) : Option TokenKind := all.find? fun k => k.name = s

end TokenKind

/-- One construct found on a line. -/
structure Token where
  /-- Line on which the construct starts. Lines of a text are numbered from one; a token that
      a caller supplies may carry any number. -/
  line : Int
  /-- What kind of construct it is. -/
  kind : TokenKind
  /-- Number of lines that a comment or string literal covers; one for all else. -/
  span : Int := 1
  /-- Number of characters of a comment or string literal; absent for all else. -/
  length : Option Int := none
  deriving DecidableEq, Repr

/-- The category a token is counted under. -/
def Token.category (t : Token) : Category := t.kind.category

end SourceCensus
