import SourceCensus.Pattern.Syntax
import SourceCensus.Text.Line
import SourceCensus.Text.Quoted

/-! # What is wrong with the text of a pattern

    A text that breaks the rules of the syntax is malformed. It has a flaw, and for most flaws there
    is a position in the text at which the flaw shows.

    ## Other errors

    A few errors are no matter of the syntax. A number in the text is too large to be kept, or has
    too many digits to be read at all; two alphabets are chosen for the whole pattern; its groups
    are nested too deeply for the calls that are left. And what is given for a pattern may be no
    text.
-/

namespace SourceCensus.Pattern

/-! ## Flaws -/

/-- What a text lacks at some place. -/
inductive Wanted where
  /-- The opening brace of a character's name. -/
  | brace
  /-- The name of a character. -/
  | characterName
  /-- The name or the number of a group. -/
  | groupName
  /-- The character that ends a name. -/
  | nameEnd (close : Char)
  /-- The end of a comment. -/
  | commentEnd
  /-- The end of a group. -/
  | groupEnd
  /-- Another option to turn on, or what follows the options. -/
  | optionsEnd
  /-- An option to turn off. -/
  | option
  /-- Another option to turn off, or the colon that follows them. -/
  | colon
  deriving DecidableEq, Repr

/-- The name of what a text lacks. -/
def Wanted.text : Wanted → String
  | .brace => "\x7b"
  | .characterName => "character name"
  | .groupName => "group name"
  | .nameEnd close => String.singleton close ++ ", unterminated name"
  | .commentEnd => "), unterminated comment"
  | .groupEnd => "), unterminated subpattern"
  | .optionsEnd => "-, : or )"
  | .option => "flag"
  | .colon => ":"

/-- How a text breaks the rules of the syntax. -/
inductive Flaw where
  /-- A backslash ends the text. -/
  | danglingBackslash
  /-- An escape means nothing. -/
  | unknownEscape (escape : List Char)
  /-- An escape has too few digits. -/
  | shortEscape (escape : List Char)
  /-- An octal number is too large. -/
  | largeOctal (escape : List Char)
  /-- Something is missing. -/
  | missing (what : Wanted)
  /-- No character has the name. -/
  | unknownCharacter (name : List Char)
  /-- A character class has no end. -/
  | unclosedClass
  /-- A range of characters has no such bounds. -/
  | badRange (low high : List Char)
  /-- No group can have the name. -/
  | badGroupName (name : List Char)
  /-- No group has the name. -/
  | unknownGroup (name : List Char)
  /-- The group that is referred to is not closed. -/
  | openGroup
  /-- The group that is referred to began in the same look behind. -/
  | groupBehind
  /-- There is no group with the number. -/
  | noGroup (n : Nat)
  /-- No group has the number zero. -/
  | groupZero
  /-- Two groups have the same name. -/
  | sameName (name : List Char) (number before : Nat)
  /-- A question mark in a parenthesis is followed by something else than it may be. -/
  | unknownExtension (text : List Char)
  /-- The text ends too early. -/
  | unexpectedEnd
  /-- A condition decides between more than two patterns. -/
  | thirdBranch
  /-- Options for the whole pattern do not stand at its start. -/
  | lateOptions
  /-- An option is for patterns of bytes. -/
  | bytesOption
  /-- Two alphabets are chosen in one place. -/
  | twoAlphabets
  /-- An alphabet is turned off. -/
  | alphabetOff
  /-- An option of the whole pattern is turned on for a group. -/
  | wholeOptionOn
  /-- An option of the whole pattern is turned off for a group. -/
  | wholeOptionOff
  /-- An option is turned on and off. -/
  | onAndOff
  /-- A letter is no option. -/
  | unknownOption
  /-- A repetition has a least number above its greatest one. -/
  | boundsReversed
  /-- There is nothing before a repetition that could be repeated. -/
  | nothingToRepeat
  /-- A repetition is repeated. -/
  | repeatedTwice
  /-- A parenthesis is closed that was not opened. -/
  | strayParenthesis
  /-- A look behind begins too far before. -/
  | tooFarBehind
  /-- A look behind has no fixed width. -/
  | unevenBehind
  /-- A pattern without repetition has one. -/
  | repetitionInTemplate (greed : Greed)
  deriving DecidableEq, Repr

/-- The name of a kind of repetition. -/
def Greed.name : Greed → String
  | .greedy => "MAX_REPEAT"
  | .lazy => "MIN_REPEAT"
  | .possessive => "POSSESSIVE_REPEAT"

/-- The text of a flaw. -/
def Flaw.message : Flaw → String
  | .danglingBackslash => "bad escape (end of pattern)"
  | .unknownEscape escape => "bad escape " ++ String.ofList escape
  | .shortEscape escape => "incomplete escape " ++ String.ofList escape
  | .largeOctal escape =>
    "octal escape value " ++ String.ofList escape ++ " outside of range 0-0o377"
  | .missing what => "missing " ++ what.text
  | .unknownCharacter name => "undefined character name " ++ String.ofList (Text.quoted name)
  | .unclosedClass => "unterminated character set"
  | .badRange low high =>
    "bad character range " ++ String.ofList low ++ "-" ++ String.ofList high
  | .badGroupName name => "bad character in group name " ++ String.ofList (Text.quoted name)
  | .unknownGroup name => "unknown group name " ++ String.ofList (Text.quoted name)
  | .openGroup => "cannot refer to an open group"
  | .groupBehind => "cannot refer to group defined in the same lookbehind subpattern"
  | .noGroup n => "invalid group reference " ++ toString n
  | .groupZero => "bad group number"
  | .sameName name number before =>
    "redefinition of group name " ++ String.ofList (Text.quoted name) ++ " as group "
      ++ toString number ++ "; was group " ++ toString before
  | .unknownExtension text => "unknown extension " ++ String.ofList text
  | .unexpectedEnd => "unexpected end of pattern"
  | .thirdBranch => "conditional backref with more than two branches"
  | .lateOptions => "global flags not at the start of the expression"
  | .bytesOption => "bad inline flags: cannot use 'L' flag with a str pattern"
  | .twoAlphabets => "bad inline flags: flags 'a', 'u' and 'L' are incompatible"
  | .alphabetOff => "bad inline flags: cannot turn off flags 'a', 'u' and 'L'"
  | .wholeOptionOn => "bad inline flags: cannot turn on global flag"
  | .wholeOptionOff => "bad inline flags: cannot turn off global flag"
  | .onAndOff => "bad inline flags: flag turned on and off"
  | .unknownOption => "unknown flag"
  | .boundsReversed => "min repeat greater than max repeat"
  | .nothingToRepeat => "nothing to repeat"
  | .repeatedTwice => "multiple repeat"
  | .strayParenthesis => "unbalanced parenthesis"
  | .tooFarBehind => "looks too much behind"
  | .unevenBehind => "look-behind requires fixed-width pattern"
  | .repetitionInTemplate greed => "internal: unsupported template operator " ++ greed.name

/-! ## Errors -/

/-- The greatest number of digits of a number that is read from a text. -/
def digitLimit : Nat := 4300

/-- Why something is not a usable pattern. -/
inductive PatternError where
  /-- The text breaks the rules of the syntax, which may show at a position. -/
  | malformed (flaw : Flaw) (position : Option Nat)
  /-- A repetition number is too large. -/
  | repetitionTooLarge
  /-- The number of a character is too large. -/
  | characterTooLarge
  /-- A repetition number has too many digits, and how many it has. -/
  | tooManyDigits (count : Nat)
  /-- Two alphabets are chosen. -/
  | alphabetsConflict
  /-- Groups are nested too deeply. -/
  | nestedTooDeep
  /-- What is given for a pattern is no text. -/
  | notText
  /-- What is given for a pattern is a container of some type. -/
  | container (typeName : String)
  deriving DecidableEq, Repr

namespace PatternError

/-- The text breaks the rules of the syntax. -/
def isMalformed : PatternError → Bool
  | .malformed _ _ => true
  | _ => false

/-- A position in a text as a message tells it. The line is told when there is more than one. -/
def positionText (source : Text) (position : Nat) : String :=
  let (line, column) := source.lineAndColumn position
  let place := if source.contains '\n' then
      " (line " ++ toString line ++ ", column " ++ toString column ++ ")"
    else ""
  " at position " ++ toString position ++ place

/-- The message about an error of a text. -/
def message (source : String) : PatternError → String
  | .malformed flaw none => flaw.message
  | .malformed flaw (some position) => flaw.message ++ positionText source.toList position
  | .repetitionTooLarge => "the repetition number is too large"
  | .characterTooLarge => "Python int too large to convert to C int"
  | .tooManyDigits count =>
    "Exceeds the limit (" ++ toString digitLimit ++ " digits) for integer string conversion: "
      ++ "value has " ++ toString count
      ++ " digits; use sys.set_int_max_str_digits() to increase the limit"
  | .alphabetsConflict => "ASCII and UNICODE flags are incompatible"
  | .nestedTooDeep => "maximum recursion depth exceeded"
  | .notText => "first argument must be string or compiled pattern"
  | .container typeName => "unhashable type: '" ++ typeName ++ "'"

end PatternError

end SourceCensus.Pattern
