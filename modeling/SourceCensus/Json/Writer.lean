import SourceCensus.Json.Value
import SourceCensus.Number.Shortest
import SourceCensus.Number.Integer
import SourceCensus.Text.Quoted

/-! # Writing JSON

    A value is written over several lines: every item and member on a line of its own,
    indented by a fixed number of spaces for each level; an empty array or object stays on
    one line. Characters outside ASCII are written as they are. Only quotes, backslashes and
    control characters are escaped.
-/

namespace SourceCensus.Json

open Text Number

/-- One character of a string. -/
def writtenChar (c : Char) : List Char :=
  if c = '\x22' then ['\\', '\x22']
  else if c = '\\' then ['\\', '\\']
  else if c = '\n' then ['\\', 'n']
  else if c = '\r' then ['\\', 'r']
  else if c = '\t' then ['\\', 't']
  else if c = '\x0c' then ['\\', 'f']
  else if c = '\x08' then ['\\', 'b']
  else if c.toNat < 0x20 then '\\' :: 'u' :: hexDigits 4 c.toNat
  else [c]

/-- A string between quotes. -/
def writeString (s : String) : List Char :=
  '\x22' :: (s.toList.flatMap writtenChar ++ ['\x22'])

/-- The spellings of the numbers that have no digits. -/
def specialNames : SpecialNames := ⟨"NaN", "Infinity"⟩

/-- A line feed and the indentation of a level. -/
def newLine (indent level : Nat) : List Char := '\n' :: List.replicate (indent * level) ' '

mutual

/-- A value that stands on a given level. -/
def writeValue (indent level : Nat) : Value → List Char
  | .null => "null".toList
  | .bool true => "true".toList
  | .bool false => "false".toList
  | .int n => (integerText n).toList
  | .float x => (doubleText specialNames x).toList
  | .string s => writeString s
  | .array [] => "[]".toList
  | .array (v :: vs) =>
    '[' :: (newLine indent (level + 1) ++ writeValue indent (level + 1) v
      ++ writeItems indent (level + 1) vs ++ newLine indent level ++ [']'])
  | .object [] => "{}".toList
  | .object ((k, v) :: ms) =>
    '{' :: (newLine indent (level + 1) ++ writeString k ++ [':', ' ']
      ++ writeValue indent (level + 1) v
      ++ writeMembers indent (level + 1) ms ++ newLine indent level ++ ['}'])

/-- The items after the first one, each with the comma before it. -/
def writeItems (indent level : Nat) : List Value → List Char
  | [] => []
  | v :: vs =>
    ',' :: (newLine indent level ++ writeValue indent level v ++ writeItems indent level vs)

/-- The members after the first one, each with the comma before it. -/
def writeMembers (indent level : Nat) : List (String × Value) → List Char
  | [] => []
  | (k, v) :: ms =>
    ',' :: (newLine indent level ++ writeString k ++ [':', ' '] ++ writeValue indent level v
      ++ writeMembers indent level ms)

end

/-- A document: the text of a value, indented by `indent` spaces for each level. -/
def write (indent : Nat) (v : Value) : String := String.ofList (writeValue indent 0 v)

end SourceCensus.Json
