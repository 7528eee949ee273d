import SourceCensus.Text.Printable

/-! # Quoted texts

    Messages show a text between quotes: apostrophes, unless the text holds an apostrophe
    and no double quote. A backslash stands before the quote in use and before another
    backslash; tab, line feed and carriage return have letters of their own; all else that
    is not printable is shown by its number in two, four or eight hexadecimal digits.
-/

namespace SourceCensus.Text

/-- The hexadecimal digits of a number, filled with zeros up to a width. -/
def hexDigits (width n : Nat) : List Char :=
  let digits := Nat.toDigits 16 n
  List.replicate (width - digits.length) '0' ++ digits

/-- One character of a quoted text. -/
def quotedChar (mark c : Char) : List Char :=
  if c = mark || c = '\\' then ['\\', c]
  else if c = '\t' then ['\\', 't']
  else if c = '\n' then ['\\', 'n']
  else if c = '\r' then ['\\', 'r']
  else if isPrintable c then [c]
  else if c.toNat < 0x100 then '\\' :: 'x' :: hexDigits 2 c.toNat
  else if c.toNat < 0x10000 then '\\' :: 'u' :: hexDigits 4 c.toNat
  else '\\' :: 'U' :: hexDigits 8 c.toNat

/-- The mark around a quoted text. -/
def quotationMark (t : List Char) : Char :=
  if t.contains '\x27' && !t.contains '\x22' then '\x22' else '\x27'

/-- A text between quotation marks. -/
def quoted (t : List Char) : List Char :=
  let mark := quotationMark t
  mark :: (t.flatMap (quotedChar mark) ++ [mark])

/-- A string between quotation marks. -/
def quotedString (s : String) : String := String.ofList (quoted s.toList)

end SourceCensus.Text
