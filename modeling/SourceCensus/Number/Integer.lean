import SourceCensus.Text.Blank
import SourceCensus.Text.Digit
import SourceCensus.Text.Quoted

/-! # Integers written in decimal

    An integer is read from a text that may have white space around it: an optional sign,
    then digits of any script, with single underscores allowed between two digits. The
    information separators U+001C to U+001F are no white space here, although they are
    elsewhere. `integerText` writes an integer.

    Reading and writing set no limit on the number of digits. Who allows no more than some number
    of them counts them before.
-/

namespace SourceCensus.Number

open Text

/-- White space that may surround a number. -/
def isNumberBlank (c : Char) : Bool := isBlank c && !(0x1c ≤ c.toNat && c.toNat ≤ 0x1f)

/-- The digits that follow a number read so far; an underscore needs a digit on either side. -/
def readDigits? (value : Nat) : List Char → Option Nat
  | [] => some value
  | c :: rest =>
    match decimalValue? c with
    | some d => readDigits? (value * 10 + d) rest
    | none =>
      if c = '_' then
        match rest with
        | [] => none
        | d :: more => match decimalValue? d with
          | some d => readDigits? (value * 10 + d) more
          | none => none
      else none

/-- A natural number: at least one digit. -/
def readNatural? : List Char → Option Nat
  | [] => none
  | c :: rest => match decimalValue? c with
    | some d => readDigits? d rest
    | none => none

/-- An integer with an optional sign and white space around it. -/
def readInteger? (t : List Char) : Option Int :=
  match trim isNumberBlank t with
  | '-' :: digits => (readNatural? digits).map fun n => -(n : Int)
  | '+' :: digits => (readNatural? digits).map fun n => (n : Int)
  | digits => (readNatural? digits).map fun n => (n : Int)

/-- An integer in decimal digits, with a minus sign below zero. -/
def integerText (n : Int) : String :=
  String.ofList (if n < 0 then '-' :: Nat.toDigits 10 n.natAbs else Nat.toDigits 10 n.natAbs)

/-- The greatest number of characters of a text that a message shows. -/
def shownLimit : Nat := 200

/-- What is said of a text that is no integer. -/
def unreadableText (s : String) : String :=
  "invalid literal for int() with base 10: " ++
    String.ofList ((Text.quoted s.toList).take shownLimit)

end SourceCensus.Number
