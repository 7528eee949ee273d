import Mathlib.Computability.Language
import SourceCensus.Proofs.Rule.Words
import SourceCensus.Rule.Declaration

/-! # The grammar of declarations

    What a declaration is, apart from how it is read. Each part is a language, built from sets of
    words and classes of characters by union, concatenation and iteration, so nothing is said about
    how much of a text a part takes: an identifier may stop in the middle of a word, a gap may leave
    some of the spaces, and modifiers may be left to the type.

    Besides the languages there are conditions on the text ahead. No reserved word may stand whole
    where a type begins, and no reserved word or built-in type where a name begins (`Bars`); and
    behind the equals sign of a field stands neither another one nor a closing angle bracket
    (`Form.Ends`).

    `Splits` says that a declaration, cut into its parts, stands at the front of a text in one of
    the three forms. As far as the definition goes, a text may be cut in several ways and forms.
-/

namespace SourceCensus.Rule

open Text Vocabulary
open scoped Computability

/-! ## Classes and words -/

/-- The texts of characters of one kind, the empty one among them. -/
def run (p : Char → Bool) : Language Char := {t | ∀ c ∈ t, p c = true}

/-- The texts of a list. -/
def oneOf (ws : List Text) : Language Char := {t | t ∈ ws}

/-- Spaces and tabs, at least one. -/
def gaps : Language Char := {t | t ≠ [] ∧ t ∈ run isGap}

/-- A text, or nothing. -/
def perhaps (L : Language Char) : Language Char := 1 + L

/-- A character that may begin an identifier, and word characters. -/
def identifiers : Language Char :=
  {t | ∃ c r, t = c :: r ∧ startsIdentifier c = true ∧ r ∈ run isWord}

/-- Words of a list, each with a gap behind it. -/
def wordRows (ws : List Text) : Language Char := (oneOf ws * gaps)∗

/-! ## Types -/

/-- A point and an identifier. -/
def members : Language Char := {['.']} * identifiers

/-- Type arguments without arguments of their own, and more characters behind them. -/
def innerArguments : Language Char :=
  {['<']} * (run isArgumentChar * ({['>']} * run isArgumentChar))

/-- Type arguments in angle brackets. -/
def typeArguments : Language Char :=
  {['<']} * (run isArgumentChar * (innerArguments∗ * {['>']}))

/-- A pair of array brackets with spaces, tabs and commas between them. -/
def arrayBrackets : Language Char :=
  {['[']} * (run (fun c => isGap c || c = ',') * {[']']})

/-- A question mark, array brackets and another question mark, all of which may be missing. -/
def typeSuffixes : Language Char :=
  perhaps {['?']} * (arrayBrackets∗ * perhaps {['?']})

/-- Types. -/
def typeNames : Language Char :=
  identifiers * (members∗ * (perhaps typeArguments * typeSuffixes))

/-! ## Terminators -/

/-- The words of accessors. -/
def accessorWords : List Text := ["get".toList, "set".toList, "init".toList]

/-- What opens or ends the body of an accessor. -/
def bodyMarks : List Text := [[';'], ['{'], ['=', '>']]

/-- An opening brace and the first accessor behind it. -/
def accessorBlocks : Language Char :=
  {['{']} * (run isBlank * (perhaps (oneOf accessWords * gaps) *
    (oneOf accessorWords * (run isBlank * oneOf bodyMarks))))

/-- What ends the head of a property. -/
def propertyEnds : Language Char := run isBlank * ({['=', '>']} + accessorBlocks)

/-- Type parameters in angle brackets. -/
def typeParameters : Language Char :=
  {['<']} * (run (fun c => !(['<', '>', '(', ')'].contains c)) * {['>']})

/-- A gap or none, and an opening parenthesis. -/
def openingParentheses : Language Char := run isGap * {['(']}

/-- What ends the head of a method. -/
def methodEnds : Language Char := run isGap * (perhaps typeParameters * openingParentheses)

/-! ## Declarations -/

/-- One of the words stands whole at the front of a text. -/
def Bars (ws : List Text) (t : Text) : Prop :=
  ∃ w ∈ ws, ∃ rest, t = w ++ rest ∧ NoneAhead isWord rest

/-- The three forms of declarations, each of which has a rule. -/
inductive Form where
  | property
  | fieldOrLocal
  | method
  deriving DecidableEq, Repr

namespace Form

/-- A terminator of a form, with the text behind it. -/
inductive Ends : Form → Text → Text → Prop
  | property {stop : Text} (h : stop ∈ propertyEnds) (after : Text) : Ends property stop after
  | equals {space after : Text} (h : space ∈ run isGap)
      (hafter : NoneAhead (fun c => c = '=' || c = '>') after) :
      Ends fieldOrLocal (space ++ ['=']) after
  | semicolon {space : Text} (h : space ∈ run isGap) (after : Text) :
      Ends fieldOrLocal (space ++ [';']) after
  | method {stop : Text} (h : stop ∈ methodEnds) (after : Text) : Ends method stop after

/-- The rule for a form. -/
def recogniser : Form → Recogniser
  | property => Rule.property
  | fieldOrLocal => Rule.fieldOrLocal
  | method => Rule.method

end Form

/-- The parts of a declaration up to its name, with the text behind the name. -/
structure Head (d : Declaration) (rest : Text) : Prop where
  modifiers : d.modifiers ∈ wordRows modifierWords
  typeName : d.typeName ∈ typeNames
  typeName_free : ¬ Bars reservedWords (d.typeName ++ (d.separator ++ (d.name ++ rest)))
  separator : d.separator ∈ gaps
  name : d.name ∈ identifiers
  name_free : ¬ Bars (reservedWords ++ builtinWords) (d.name ++ rest)

/-- A declaration with a type, with the text behind it. -/
structure Typed (k : Form) (d : Declaration) (after : Text) : Prop where
  head : Head d (d.terminator ++ after)
  terminator : k.Ends d.terminator after

/-- A constructor, with the text behind it. -/
structure Constructs (d : Declaration) (after : Text) : Prop where
  modifiers : d.modifiers ∈ oneOf accessWords * gaps * wordRows modifierWords
  typeName : d.typeName = []
  separator : d.separator = []
  name : d.name ∈ identifiers
  name_free : ¬ Bars (reservedWords ++ builtinWords) (d.name ++ (d.terminator ++ after))
  terminator : d.terminator ∈ openingParentheses

/-- A declaration of some form stands at the front of a text, cut into its parts. -/
inductive Splits : Form → Text → Declaration → Prop
  | typed {k : Form} {d : Declaration} {after : Text} (h : Typed k d after) :
      Splits k (d.text ++ after) d
  | constructs {d : Declaration} {after : Text} (h : Constructs d after) :
      Splits .method (d.text ++ after) d

end SourceCensus.Rule
