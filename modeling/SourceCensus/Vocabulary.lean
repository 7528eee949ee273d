import SourceCensus.Text.Line

/-! # Vocabulary

    The words with a fixed meaning in the family of languages that is read, as lists of
    characters: built-in types, which may stand where a type stands but never name anything;
    reserved words, which can be neither; and among the latter the modifiers that may
    precede a declaration.
-/

namespace SourceCensus.Vocabulary

/-- The words of built-in types. -/
def builtinNames : List String :=
  ["bool", "byte", "char", "decimal", "double", "dynamic", "float", "int", "long", "nint",
   "nuint", "object", "sbyte", "short", "string", "uint", "ulong", "ushort", "var", "void"]

/-- The words that are neither a type nor a name. -/
def reservedNames : List String :=
  ["abstract", "as", "async", "await", "base", "break", "case", "catch", "checked", "class",
   "const", "continue", "default", "delegate", "do", "else", "enum", "event", "explicit",
   "extern", "false", "finally", "fixed", "for", "foreach", "goto", "if", "implicit", "in",
   "interface", "internal", "is", "lock", "namespace", "new", "null", "operator", "out",
   "override", "params", "partial", "private", "protected", "public", "readonly", "ref",
   "return", "sealed", "sizeof", "stackalloc", "static", "struct", "switch", "this", "throw",
   "true", "try", "typeof", "unchecked", "unsafe", "using", "virtual", "volatile", "while",
   "yield"]

/-- The words that may precede a declaration. -/
def modifierNames : List String :=
  ["public", "private", "internal", "protected", "readonly", "const", "static", "abstract",
   "override", "virtual", "sealed", "async"]

/-- The modifiers that say who may use what is declared. -/
def accessNames : List String := ["public", "private", "internal", "protected"]

/-- Built-in types as characters. -/
def builtinWords : List Text := builtinNames.map String.toList

/-- Reserved words as characters. -/
def reservedWords : List Text := reservedNames.map String.toList

/-- Modifiers as characters. -/
def modifierWords : List Text := modifierNames.map String.toList

/-- Access modifiers as characters. -/
def accessWords : List Text := accessNames.map String.toList

end SourceCensus.Vocabulary
