import SourceCensus.Json.Integer
import SourceCensus.Log.Record
import SourceCensus.Number.Rounding
import SourceCensus.Text.Quoted

/-! # Fields of a template

    A field starts with a percent sign and names, in parentheses, what is put in its place. Behind
    the name stand flags, a width, a precision, and a letter for the form: a text, a quoted text, a
    whole number in some base, a character, or a decimal.

    A filling has to suit the form. Only whole numbers have a base, and only a whole number or a
    text of one character is a character. A whole number is brought to a double before it is written
    as a decimal, and a double loses its fraction where a whole number is asked for.
-/

namespace SourceCensus

/-- One field of a template. -/
structure Field where
  /-- Name of what is put in. -/
  key : String
  /-- Flags. -/
  flags : List Char
  /-- Least number of characters. -/
  width : Nat
  /-- Precision. -/
  precision : Option Nat
  /-- The form. -/
  form : Char
  deriving DecidableEq, Repr

namespace Field

/-! ## Reading a field -/

/-- The text up to the closing parenthesis that matches `depth` open ones, and what follows
    it. -/
def splitKey? : Nat → List Char → Option (List Char × List Char)
  | _, [] => none
  | depth, c :: rest =>
    if c = ')' && depth ≤ 1 then some ([], rest)
    else
      let depth := if c = '(' then depth + 1 else if c = ')' then depth - 1 else depth
      (splitKey? depth rest).map fun (key, after) => (c :: key, after)

/-- The key of a field, and what follows it. -/
def readKey? : List Char → Option (String × List Char)
  | '(' :: rest => (splitKey? 1 rest).map fun (key, after) => (String.ofList key, after)
  | _ => none

/-- The number that the digits at the start of a text make, and what follows them. -/
def readNumber (t : List Char) : Nat × List Char :=
  let digits := t.takeWhile Char.isDigit
  (digits.foldl (fun n c => n * 10 + (c.toNat - 48)) 0, t.drop digits.length)

/-- The precision of a field, and what follows it. -/
def readPrecision : List Char → Option Nat × List Char
  | '.' :: rest => (some (readNumber rest).1, (readNumber rest).2)
  | t => (none, t)

/-- Leaves out one letter for the size of a number, which means nothing. -/
def skipSize : List Char → List Char
  | 'h' :: rest => rest
  | 'l' :: rest => rest
  | 'L' :: rest => rest
  | t => t

/-- Reads a field from the text behind its percent sign. A field has a key and a form. -/
def read? (t : List Char) : Option (Field × List Char) := do
  let (key, t) ← readKey? t
  let flags := t.takeWhile (['-', '+', ' ', '#', '0'].contains ·)
  let (width, t) := readNumber (t.drop flags.length)
  let (precision, t) := readPrecision t
  match skipSize t with
  | [] => none
  | form :: rest => some (⟨key, flags, width, precision, form⟩, rest)

/-! ## Placing -/

/-- The field has a flag. -/
def has (f : Field) (flag : Char) : Bool := f.flags.contains flag

/-- Fills a text up to the width: on the right with the flag for it, and otherwise on the left
    with blanks, or with zeros between the lead and the body. -/
def place (f : Field) (zeros : Bool) (lead body : List Char) : List Char :=
  let room := f.width - (lead.length + body.length)
  if f.has '-' then lead ++ body ++ List.replicate room ' '
  else if zeros then lead ++ List.replicate room '0' ++ body
  else List.replicate room ' ' ++ lead ++ body

/-- The field for a text, cut to the precision. -/
def placeText (f : Field) (t : List Char) : List Char :=
  f.place false [] (match f.precision with
    | some n => t.take n
    | none => t)

/-- The field for a number of which the digits are given. -/
def placeNumber (f : Field) (negative : Bool) (mark body : List Char) : List Char :=
  let sign := if negative then ['-'] else if f.has '+' then ['+']
    else if f.has ' ' then [' '] else []
  f.place (f.has '0') (sign ++ mark) body

/-! ## Whole numbers -/

/-- The field for a whole number in a base, with at least as many digits as the precision says. The
    mark of the base is shown with the flag for it. -/
def placeWhole (f : Field) (base : Nat) (mark : String) (n : Int) : List Char :=
  let digits := Nat.toDigits base n.natAbs
  f.placeNumber (n < 0) (if f.has '#' then mark.toList else [])
    (List.replicate (f.precision.getD 0 - digits.length) '0' ++ digits)

/-- The field for the character with a number, if there is one. -/
def placeChar? (f : Field) (n : Int) : Option (List Char) :=
  if 0 ≤ n && n.toNat.isValidChar then some (f.place false [] [Char.ofNat n.toNat]) else none

/-! ## Decimals -/

/-- Digits with a point before the last `places` of them. -/
def pointed (f : Field) (places : Nat) (digits : List Char) : List Char :=
  let fraction := digits.drop (digits.length - places)
  digits.take (digits.length - places)
    ++ (if fraction.isEmpty && !f.has '#' then [] else '.' :: fraction)

/-- Zeros at the end of a fraction are left out, but for the flag. -/
def shorten (f : Field) (places : Nat) (digits : List Char) : Nat × List Char :=
  let zeros := (digits.reverse.takeWhile (· = '0')).length
  let dropped := if f.has '#' then 0 else min places zeros
  (places - dropped, digits.take (digits.length - dropped))

/-- The digits of a magnitude rounded to a number of places behind the point. -/
def fixedDigits (places : Nat) (b : Number.Binary) : List Char :=
  let v := Number.scaleTwo b.m b.q
  let digits := Nat.toDigits 10 (Number.roundQuotient (v.1 * Number.tenTo places) v.2)
  List.replicate (places + 1 - digits.length) '0' ++ digits

/-- The first digits of a magnitude, of which the last one is rounded, and the exponent of the first
    one. -/
def leadingDigits (count : Nat) (b : Number.Binary) : List Char × Int :=
  if b.m = 0 then (List.replicate count '0', 0)
  else
    let first := b.floorTen 308 640
    let v := Number.scaleTwo b.m b.q
    let s := Number.scaleTen v.1 v.2 (count - 1 - first)
    let digits := Nat.toDigits 10 (Number.roundQuotient s.1 s.2)
    -- rounding up may have made one digit more
    (digits.take count, first + (digits.length - count : Nat))

/-- The body of a decimal with an exponent. -/
def exponentBody (f : Field) (letter : Char) (b : Number.Binary) : List Char :=
  let places := f.precision.getD 6
  let (digits, first) := leadingDigits (places + 1) b
  f.pointed places digits ++ letter :: Number.exponentText first

/-- The body of a decimal in the shorter of two forms: with an exponent only when it is small or has
    more digits than the precision says. -/
def shorterBody (f : Field) (letter : Char) (b : Number.Binary) : List Char :=
  let count := max 1 (f.precision.getD 6)
  let (digits, first) := leadingDigits count b
  if first < -4 || (count : Int) ≤ first then
    let (places, kept) := f.shorten (count - 1) digits
    f.pointed places kept ++ letter :: Number.exponentText first
  else
    let whole := List.replicate (-first).toNat '0' ++ digits
    let (places, kept) := f.shorten (count - 1 - first).toNat whole
    f.pointed places kept

/-- The body of a decimal. -/
def decimalBody (f : Field) (b : Number.Binary) : List Char :=
  match f.form with
  | 'e' => f.exponentBody 'e' b
  | 'E' => f.exponentBody 'E' b
  | 'g' => f.shorterBody 'e' b
  | 'G' => f.shorterBody 'E' b
  | _ =>
    let places := f.precision.getD 6
    f.pointed places (fixedDigits places b)

/-- The field for a double as a decimal. -/
def placeDecimal (f : Field) (x : Float) : List Char :=
  let bits := x.toBits.toNat
  let magnitude := bits % Number.signBit
  let name (s : String) : List Char := (if f.form.isUpper then s.toUpper else s).toList
  if x.isNaN then f.placeNumber false [] (name "nan")
  else
    let body := if magnitude = Number.infinityBits then name "inf"
      else f.decimalBody (Number.Binary.ofBits magnitude)
    f.placeNumber (Number.signBit ≤ bits) [] body

/-! ## Filling a field -/

/-- A character of a quoted text, shown by its number when it is not of ASCII. -/
def asciiChar (c : Char) : List Char :=
  if c.toNat < 0x80 then [c]
  else if c.toNat < 0x100 then '\\' :: 'x' :: Text.hexDigits 2 c.toNat
  else if c.toNat < 0x10000 then '\\' :: 'u' :: Text.hexDigits 4 c.toNat
  else '\\' :: 'U' :: Text.hexDigits 8 c.toNat

/-- A filling as a text. -/
def plainText : Filling → List Char
  | .text t => t
  | .whole n => (Number.integerText n).toList
  | .real x => (Number.doubleText ⟨"nan", "inf"⟩ x).toList
  | .nothing => "None".toList

/-- A filling as a quoted text; only a text is put between quotation marks. -/
def quotedText : Filling → List Char
  | .text t => Text.quoted t
  | v => plainText v

/-- A filling as a whole number. -/
def whole? : Filling → Option Int
  | .whole n => some n
  | .real x => if x.isNaN || x.isInf then none else some (Json.truncated x)
  | _ => none

/-- A filling as a double. -/
def double? : Filling → Option Float
  | .whole n => Number.double? n
  | .real x => some x
  | _ => none

/-- A filling as a number that has a base. -/
def based? : Filling → Option Int
  | .whole n => some n
  | _ => none

/-- What a field shows of its filling, if the filling suits the form. -/
def fill? (f : Field) (v : Filling) : Option (List Char) :=
  match f.form with
  | 's' => some (f.placeText (plainText v))
  | 'r' => some (f.placeText (quotedText v))
  | 'a' => some (f.placeText ((quotedText v).flatMap asciiChar))
  | 'd' | 'i' | 'u' => (whole? v).map (f.placeWhole 10 "")
  | 'o' => (based? v).map (f.placeWhole 8 "0o")
  | 'x' => (based? v).map (f.placeWhole 16 "0x")
  | 'X' => (based? v).map fun n => (f.placeWhole 16 "0x" n).map Char.toUpper
  | 'e' | 'E' | 'f' | 'F' | 'g' | 'G' => (double? v).map f.placeDecimal
  | 'c' =>
    match v with
    | .text [c] => some (f.place false [] [c])
    | v => (based? v).bind f.placeChar?
  | _ => none

end Field

end SourceCensus
