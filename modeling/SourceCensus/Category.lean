/-! # Display categories

    The fourteen categories under which the constructs of a source text are counted. Their
    order is fixed: it numbers the entries of every statistics vector and of the legend.
-/

namespace SourceCensus

/-- What a construct is counted as. -/
inductive Category where
  | propertyMethod
  | fieldOrLocal
  | ifSwitchCase
  | whileForLoop
  | classStructInterface
  | emptyLine
  | comment
  | stringLiteral
  | tryCatchFinally
  | usingImport
  | assignment
  | instantiation
  | returnStatement
  | other
  deriving DecidableEq, Repr, Inhabited

namespace Category

/-- All categories in their fixed order. -/
def all : List Category :=
  [.propertyMethod, .fieldOrLocal, .ifSwitchCase, .whileForLoop, .classStructInterface,
   .emptyLine, .comment, .stringLiteral, .tryCatchFinally, .usingImport, .assignment,
   .instantiation, .returnStatement, .other]

/-- Place of a category in the fixed order. -/
def ordinal : Category → Nat
  | .propertyMethod => 0
  | .fieldOrLocal => 1
  | .ifSwitchCase => 2
  | .whileForLoop => 3
  | .classStructInterface => 4
  | .emptyLine => 5
  | .comment => 6
  | .stringLiteral => 7
  | .tryCatchFinally => 8
  | .usingImport => 9
  | .assignment => 10
  | .instantiation => 11
  | .returnStatement => 12
  | .other => 13

/-- The label of a category in the legend. -/
def displayName : Category → String
  | .propertyMethod => "property/method"
  | .fieldOrLocal => "field/local variable"
  | .ifSwitchCase => "if/switch case"
  | .whileForLoop => "while/for loop"
  | .classStructInterface => "class/struct/interface"
  | .emptyLine => "empty line"
  | .comment => "comment"
  | .stringLiteral => "string literal"
  | .tryCatchFinally => "try/catch/finally"
  | .usingImport => "using"
  | .assignment => "assignment"
  | .instantiation => "instantiation"
  | .returnStatement => "return"
  | .other => "other"

/-- The name under which a category is written in data. -/
def name : Category → String
  | .propertyMethod => "PROPERTY_METHOD"
  | .fieldOrLocal => "FIELD_OR_LOCAL"
  | .ifSwitchCase => "IF_SWITCH_CASE"
  | .whileForLoop => "WHILE_FOR_LOOP"
  | .classStructInterface => "CLASS_STRUCT_INTERFACE"
  | .emptyLine => "EMPTY_LINE"
  | .comment => "COMMENT"
  | .stringLiteral => "STRING_LITERAL"
  | .tryCatchFinally => "TRY_CATCH_FINALLY"
  | .usingImport => "USING_IMPORT"
  | .assignment => "ASSIGNMENT"
  | .instantiation => "INSTANTIATION"
  | .returnStatement => "RETURN"
  | .other => "OTHER"

/-- The category written under a name. -/
def ofName? (s : String) : Option Category := all.find? fun c => c.name = s

/-- The labels of all categories in their fixed order. -/
def legend : List String := all.map displayName

end Category

end SourceCensus
