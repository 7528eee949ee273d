import SourceCensus.Rule.Word
import SourceCensus.Vocabulary

/-! # Declaration rules

    A declaration begins where neither a word character nor a point stands before it, and is
    made of

    - any number of modifiers, each followed by a gap of spaces and tabs;
    - a type: words joined by points, of which the first is not reserved; type arguments in
      angle brackets, nested once at most; a question mark; any number of array brackets;
      another question mark;
    - a gap;
    - a name, which is neither reserved nor a built-in type;
    - a terminator, which tells properties, fields and methods apart.

    A constructor has no type: it begins with an access modifier.

    Each part is read as a piece of text that stands at the front. A word is always taken
    whole and a gap as far as it goes: where less of either were taken, the next part could
    not begin, so there is never a second way to read a declaration.
-/

namespace SourceCensus.Rule

open Text Vocabulary

/-! ## Gaps and words -/

/-- A character that may separate the parts of a declaration. -/
def isGap (c : Char) : Bool := c = ' ' || c = '\t'

/-- The gap that begins a text; it may be empty. -/
def gap (t : Text) : Text := t.takeWhile isGap

/-- The gap that begins a text, if there is one. -/
def gap? (t : Text) : Option Text :=
  let g := gap t
  if g.isEmpty then none else some g

/-- A character that may begin an identifier. -/
def startsIdentifier (c : Char) : Bool :=
  ('a' ≤ c && c ≤ 'z') || ('A' ≤ c && c ≤ 'Z') || c = '_'

/-- The identifier that begins a text. -/
def identifier? (t : Text) : Option Text :=
  match t with
  | c :: _ => if startsIdentifier c then some (t.takeWhile isWord) else none
  | [] => none

/-- One of the given words, whole, and the gap after it. -/
def wordAndGap? (words : List Text) (t : Text) : Option Text :=
  let word := t.takeWhile isWord
  if words.contains word then (gap? (t.drop word.length)).map (word ++ ·) else none

/-- The pieces that a reader finds one after the other at the front of a text. -/
def repeated (piece : Text → Option Text) (t : Text) : Text :=
  match piece t with
  | none => []
  | some p => if p.isEmpty || t.isEmpty then [] else p ++ repeated piece (t.drop p.length)
termination_by t.length
decreasing_by
  rename_i h
  have some_left : 0 < t.length := by
    cases t <;> simp at h ⊢
  have some_taken : 0 < p.length := by
    cases p <;> simp at h ⊢
  rw [List.length_drop]
  omega

/-- The modifiers that begin a text, with their gaps. -/
def modifiers (t : Text) : Text := repeated (wordAndGap? modifierWords) t

/-! ## Types -/

/-- A point and an identifier. -/
def pointAndIdentifier? : Text → Option Text
  | '.' :: rest => (identifier? rest).map ('.' :: ·)
  | _ => none

/-- A character that may stand between angle brackets. -/
def isArgumentChar (c : Char) : Bool := !(['<', '>', ';', '{', '}', '(', ')', '='].contains c)

/-- Type arguments without arguments of their own, and what follows them up to a bracket. -/
def innerArguments? : Text → Option Text
  | '<' :: rest =>
    let body := rest.takeWhile isArgumentChar
    match rest.drop body.length with
    | '>' :: more => some ('<' :: (body ++ '>' :: more.takeWhile isArgumentChar))
    | _ => none
  | _ => none

/-- Type arguments, or nothing where no angle bracket stands; a bracket that is not closed is a
    failure. -/
def typeArguments? : Text → Option Text
  | '<' :: rest =>
    let first := rest.takeWhile isArgumentChar
    let body := first ++ repeated innerArguments? (rest.drop first.length)
    match rest.drop body.length with
    | '>' :: _ => some ('<' :: (body ++ ['>']))
    | _ => none
  | _ => some []

/-- A question mark, if one stands there. -/
def questionMark : Text → Text
  | '?' :: _ => ['?']
  | _ => []

/-- One pair of array brackets with the commas between them. -/
def arrayBrackets? : Text → Option Text
  | '[' :: rest =>
    let body := rest.takeWhile fun c => isGap c || c = ','
    match rest.drop body.length with
    | ']' :: _ => some ('[' :: (body ++ [']']))
    | _ => none
  | _ => none

/-- What may follow the arguments of a type. -/
def typeSuffix (t : Text) : Text :=
  let first := questionMark t
  let arrays := repeated arrayBrackets? (t.drop first.length)
  let size := first.length + arrays.length
  first ++ arrays ++ questionMark (t.drop size)

/-- The type that begins a text. -/
def typeName? (t : Text) : Option Text :=
  match identifier? t with
  | none => none
  | some word =>
    if reservedWords.contains word then none
    else
      let path := word ++ repeated pointAndIdentifier? (t.drop word.length)
      match typeArguments? (t.drop path.length) with
      | none => none
      | some arguments =>
        let size := path.length + arguments.length
        some (path ++ arguments ++ typeSuffix (t.drop size))

/-- The name that begins a text. -/
def declaredName? (t : Text) : Option Text :=
  match identifier? t with
  | none => none
  | some word =>
    if reservedWords.contains word || builtinWords.contains word then none else some word

/-! ## Terminators -/

/-- One of three texts that open or end a body. -/
def bodyMark? : Text → Option Text
  | ';' :: _ => some [';']
  | '{' :: _ => some ['{']
  | '=' :: '>' :: _ => some ['=', '>']
  | _ => none

/-- The word of an accessor. -/
def accessorWord? (t : Text) : Option Text :=
  ["get".toList, "set".toList, "init".toList].find? fun w => w.isPrefixOf t

/-- An opening brace, an accessor with or without an access modifier, and a body mark. -/
def accessorBlock? : Text → Option Text
  | '{' :: rest =>
    let space := rest.takeWhile isBlank
    let access := (wordAndGap? accessWords (rest.drop space.length)).getD []
    let lead := space ++ access
    match accessorWord? (rest.drop lead.length) with
    | none => none
    | some word =>
      let head := lead ++ word
      let tail := (rest.drop head.length).takeWhile isBlank
      let size := head.length + tail.length
      (bodyMark? (rest.drop size)).map fun mark => '{' :: (head ++ tail ++ mark)
  | _ => none

/-- What ends the head of a property: an arrow or an accessor block. -/
def propertyEnd? (t : Text) : Option Text :=
  let space := t.takeWhile isBlank
  match t.drop space.length with
  | '=' :: '>' :: _ => some (space ++ ['=', '>'])
  | rest => (accessorBlock? rest).map (space ++ ·)

/-- What ends the declaration of a field or variable: a plain equals sign or a semicolon. -/
def fieldEnd? (t : Text) : Option Text :=
  let space := gap t
  match t.drop space.length with
  | '=' :: rest =>
    if rest.head? = some '=' || rest.head? = some '>' then none else some (space ++ ['='])
  | ';' :: _ => some (space ++ [';'])
  | _ => none

/-- Type parameters, or nothing where no angle bracket stands; a bracket that is not closed is a
    failure. -/
def typeParameters? : Text → Option Text
  | '<' :: rest =>
    let body := rest.takeWhile fun c => !(['<', '>', '(', ')'].contains c)
    match rest.drop body.length with
    | '>' :: _ => some ('<' :: (body ++ ['>']))
    | _ => none
  | _ => some []

/-- A gap and an opening parenthesis. -/
def openingParenthesis? (t : Text) : Option Text :=
  let space := gap t
  match t.drop space.length with
  | '(' :: _ => some (space ++ ['('])
  | _ => none

/-- What ends the head of a method: type parameters or none, and an opening parenthesis. -/
def methodEnd? (t : Text) : Option Text :=
  let space := gap t
  match typeParameters? (t.drop space.length) with
  | none => none
  | some parameters =>
    let head := space ++ parameters
    (openingParenthesis? (t.drop head.length)).map (head ++ ·)

/-! ## Declarations -/

/-- A declaration that stands at some place, cut into its parts. -/
structure Declaration where
  /-- Modifiers with their gaps. -/
  modifiers : Text
  /-- The type; empty for a constructor. -/
  typeName : Text
  /-- The gap between type and name. -/
  separator : Text
  /-- The declared name. -/
  name : Text
  /-- What ends the head of the declaration. -/
  terminator : Text
  deriving DecidableEq, Repr

namespace Declaration

/-- The characters of a declaration. -/
def text (d : Declaration) : Text :=
  d.modifiers ++ d.typeName ++ d.separator ++ d.name ++ d.terminator

/-- Number of characters of a declaration. -/
def size (d : Declaration) : Nat :=
  d.modifiers.length + d.typeName.length + d.separator.length + d.name.length
    + d.terminator.length

end Declaration

/-- A declaration may begin behind a character. -/
def mayDeclareAfter (before : Option Char) : Bool := !before.any fun c => isWord c || c = '.'

/-- The declaration with a type that begins a text and has a given kind of terminator. -/
def typed? (terminator? : Text → Option Text) (t : Text) : Option Declaration :=
  let lead := modifiers t
  let t := t.drop lead.length
  match typeName? t with
  | none => none
  | some type =>
    let t := t.drop type.length
    match gap? t with
    | none => none
    | some separator =>
      let t := t.drop separator.length
      match declaredName? t with
      | none => none
      | some name =>
        (terminator? (t.drop name.length)).map fun stop => ⟨lead, type, separator, name, stop⟩

/-- The constructor that begins a text: an access modifier, other modifiers, a name and an
    opening parenthesis. -/
def constructor? (t : Text) : Option Declaration :=
  match wordAndGap? accessWords t with
  | none => none
  | some access =>
    let lead := access ++ modifiers (t.drop access.length)
    let t := t.drop lead.length
    match declaredName? t with
    | none => none
    | some name =>
      (openingParenthesis? (t.drop name.length)).map fun stop => ⟨lead, [], [], name, stop⟩

/-- The method or constructor that begins a text. -/
def methodHead? (t : Text) : Option Declaration := typed? methodEnd? t <|> constructor? t

/-- A rule that matches where a declaration begins. -/
def declares (read : Text → Option Declaration) : Recogniser := fun before t =>
  if mayDeclareAfter before then (read t).map Declaration.size else none

/-- The rule for properties. -/
def property : Recogniser := declares (typed? propertyEnd?)

/-- The rule for fields and local variables. -/
def fieldOrLocal : Recogniser := declares (typed? fieldEnd?)

/-- The rule for methods and constructors. -/
def method : Recogniser := declares methodHead?

end SourceCensus.Rule
