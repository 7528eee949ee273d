import SourceCensus.Text.Line
import SourceCensus.Text.Quoted

/-! # UTF-8

    A character takes one to four bytes. `encode` writes a text; reading is a machine that
    looks at one byte at a time and holds the character that is still open.

    ## Reading

    The first byte of a character says how many bytes follow and, for four of its values,
    narrows the range of the second one: this rules out characters written longer than they
    need to be, surrogates, and numbers past the last character. A byte that does not fit
    ends the open character as one fault and is then read as a first byte itself. So a fault
    stands for the longest run of bytes that could have started a character.

    `decode` puts a replacement character in place of each fault. `decodeStrict?` refuses bytes that
    have a fault, and `decodeStrict` tells the first one.
-/

namespace SourceCensus.Text

/-- The bytes of a file. -/
abbrev Bytes := List UInt8

/-! ## Writing -/

/-- A byte that follows the first one: the lowest six bits of a number. -/
def tailByte (n : Nat) : UInt8 := UInt8.ofNat (0x80 + n % 64)

/-- The bytes of a character. -/
def encodeChar (c : Char) : Bytes :=
  let n := c.toNat
  if n < 0x80 then [UInt8.ofNat n]
  else if n < 0x800 then [UInt8.ofNat (0xC0 + n / 64), tailByte n]
  else if n < 0x10000 then [UInt8.ofNat (0xE0 + n / 4096), tailByte (n / 64), tailByte n]
  else [UInt8.ofNat (0xF0 + n / 262144), tailByte (n / 4096), tailByte (n / 64), tailByte n]

/-- The bytes of a text. -/
def encode (t : Text) : Bytes := t.flatMap encodeChar

/-! ## Reading -/

/-- A character of which some bytes have been read. -/
structure OpenChar where
  /-- How many bytes are still missing. -/
  missing : Nat
  /-- The number that the bytes read so far make. -/
  value : Nat
  /-- The least value of the next byte. -/
  least : Nat
  /-- The greatest value of the next byte. -/
  most : Nat
  deriving DecidableEq, Repr

/-- What a byte does when no character is open: it is a character, it opens one, or it is a
    fault. -/
def firstByte (b : Nat) : List (Option Char) × Option OpenChar :=
  if b < 0x80 then ([some (Char.ofNat b)], none)
  else if b < 0xC2 then ([none], none)
  else if b < 0xE0 then ([], some ⟨1, b - 0xC0, 0x80, 0xBF⟩)
  else if b < 0xF0 then
    ([], some ⟨2, b - 0xE0, if b = 0xE0 then 0xA0 else 0x80, if b = 0xED then 0x9F else 0xBF⟩)
  else if b < 0xF5 then
    ([], some ⟨3, b - 0xF0, if b = 0xF0 then 0x90 else 0x80, if b = 0xF4 then 0x8F else 0xBF⟩)
  else ([none], none)

/-- What a byte does: the characters and faults that it completes, and the character that is
    open after it. -/
def nextByte : Option OpenChar → Nat → List (Option Char) × Option OpenChar
  | none, b => firstByte b
  | some o, b =>
    if o.least ≤ b && b ≤ o.most then
      let value := o.value * 64 + (b - 0x80)
      if o.missing ≤ 1 then ([some (Char.ofNat value)], none)
      else ([], some ⟨o.missing - 1, value, 0x80, 0xBF⟩)
    else
      let (done, still) := firstByte b
      (none :: done, still)

/-- The characters and faults of the bytes that follow an open character. An end of the bytes
    within a character is a fault. -/
def decodeFrom : Option OpenChar → Bytes → List (Option Char)
  | none, [] => []
  | some _, [] => [none]
  | o, b :: bs =>
    let (done, still) := nextByte o b.toNat
    done ++ decodeFrom still bs

/-- The character in place of a fault. -/
def replacementChar : Char := Char.ofNat 0xFFFD

/-- The text that bytes stand for, with a replacement character for each fault. -/
def decode (bs : Bytes) : Text := (decodeFrom none bs).map (·.getD replacementChar)

/-- The text that bytes stand for, if they have no fault. -/
def decodeStrict? (bs : Bytes) : Option Text := (decodeFrom none bs).mapM id

/-! ## The first fault -/

/-- Why bytes are no character. -/
inductive FaultKind where
  /-- No character begins with the byte. -/
  | start
  /-- The character does not go on with the byte that follows. -/
  | continuation
  /-- No byte follows. -/
  | ending
  deriving DecidableEq, Repr

/-- A fault in bytes. -/
structure ByteFault where
  /-- Why it is one. -/
  kind : FaultKind
  /-- Number of bytes before it. -/
  position : Nat
  /-- The bytes of it. -/
  bytes : Bytes
  deriving DecidableEq, Repr

/-- The first fault of the bytes from a position on, where an open character has some bytes
    already. -/
def faultFrom (position : Nat) : Option (OpenChar × Bytes) → Bytes → Option ByteFault
  | none, [] => none
  | some (_, held), [] => some ⟨.ending, position, held⟩
  | none, b :: bs =>
    match firstByte b.toNat with
    | (none :: _, _) => some ⟨.start, position, [b]⟩
    | (_, some o) => faultFrom position (some (o, [b])) bs
    | (_, none) => faultFrom (position + 1) none bs
  | some (o, held), b :: bs =>
    match nextByte (some o) b.toNat with
    | (none :: _, _) => some ⟨.continuation, position, held⟩
    | (_, some o') => faultFrom position (some (o', held ++ [b])) bs
    | (_, none) => faultFrom (position + held.length + 1) none bs

/-- The text of a kind of fault. -/
def FaultKind.text : FaultKind → String
  | .start => "invalid start byte"
  | .continuation => "invalid continuation byte"
  | .ending => "unexpected end of data"

/-- The message about a fault. A single byte is shown, and of several bytes only the place is
    told. -/
def ByteFault.message (f : ByteFault) : String :=
  let place := match f.bytes with
    | [b] =>
      "byte 0x" ++ String.ofList (hexDigits 2 b.toNat) ++ " in position " ++ toString f.position
    | bytes =>
      "bytes in position " ++ toString f.position ++ "-"
        ++ toString (f.position + bytes.length - 1)
  "'utf-8' codec can't decode " ++ place ++ ": " ++ f.kind.text

/-- The text that bytes stand for, or else the first fault that they have. -/
def decodeStrict (bs : Bytes) : Except ByteFault Text :=
  match faultFrom 0 none bs with
  | some fault => .error fault
  | none => .ok (decode bs)

end SourceCensus.Text
