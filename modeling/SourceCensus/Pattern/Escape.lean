import SourceCensus.Pattern.Reading

/-! # Escapes and character classes in patterns

    A backslash gives the character after it another meaning: a place, a named class, a control
    character, a character that is told by its number or its name, or a group. In a character class
    there are neither places nor groups. Where it has no other meaning, an ASCII letter or a digit
    may not follow a backslash, and any other character stands for itself.
-/

namespace SourceCensus.Pattern

open Reader

/-! ## Escapes -/

/-- An ASCII letter. -/
def isAsciiLetter (c : Char) : Bool := ('a' ≤ c && c ≤ 'z') || ('A' ≤ c && c ≤ 'Z')

/-- A digit from zero to seven. -/
def isOctal (c : Char) : Bool := '0' ≤ c && c ≤ '7'

/-- A digit from zero to nine. -/
def isDecimalDigit (c : Char) : Bool := '0' ≤ c && c ≤ '9'

/-- A hexadecimal digit. -/
def isHex (c : Char) : Bool :=
  isDecimalDigit c || ('a' ≤ c && c ≤ 'f') || ('A' ≤ c && c ≤ 'F')

/-- The value of a digit of any base up to sixteen. -/
def digitOf (c : Char) : Nat :=
  if isDecimalDigit c then c.toNat - 0x30
  else if 'a' ≤ c then c.toNat - 0x57 else c.toNat - 0x37

/-- The number that digits write in a base. -/
def numberIn (base : Nat) (ds : List Char) : Nat := ds.foldl (fun n c => n * base + digitOf c) 0

/-- Numbers of characters end here. -/
def characterEnd : Nat := 0x110000

/-- Numbers from here on are too large for a character in any case. -/
def characterLimit : Nat := 0x80000000

/-- Exactly `count` hexadecimal digits after a backslash and a letter. -/
def readHexDigits (letter : Char) (count : Nat) : Reader (List Char) := do
  let ds ← takeChars isHex count
  if ds.length = count then return ds
  else malformed (.shortEscape ('\\' :: letter :: ds)) (ds.length + 2)

/-- The number of a character, in `count` hexadecimal digits after a backslash and a letter. -/
def readCharacterNumber (letter : Char) (count : Nat) : Reader Nat := do
  let ds ← readHexDigits letter count
  let n := numberIn 16 ds
  if characterLimit ≤ n then throw .characterTooLarge
  if characterEnd ≤ n then malformed (.unknownEscape ('\\' :: letter :: ds)) (ds.length + 2)
  return n

/-- The number of a character that is told by its name, between braces. -/
def readCharacterName (named : String → Option Char) : Reader Nat := do
  if !(← accept '\x7b') then malformed (.missing .brace) 0
  let name ← takeName .characterName '\x7d'
  match named (String.ofList name) with
  | some c => return c.toNat
  | none => malformed (.unknownCharacter name) (name.length + 4)

/-- Letters that stand for a control character. -/
def controlEscape? (c : Char) : Option Nat :=
  [('a', 7), ('b', 8), ('f', 12), ('n', 10), ('r', 13), ('t', 9), ('v', 11), ('\\', 0x5c)].lookup c

/-- Letters that stand for a named class. -/
def kindEscape? (c : Char) : Option ClassItem :=
  [('d', .kind .digit false), ('D', .kind .digit true), ('s', .kind .space false),
   ('S', .kind .space true), ('w', .kind .word false), ('W', .kind .word true)].lookup c

/-- Letters that stand for a place. -/
def anchorEscape? (c : Char) : Option Anchor :=
  [('A', .textStart), ('b', .wordBoundary), ('B', .noBoundary), ('Z', .textEnd)].lookup c

/-- Escapes that tell a character by its number or its name. -/
def characterEscape? (named : String → Option Char) (c : Char) : Option (Reader Nat) :=
  if c = 'x' then some (readCharacterNumber 'x' 2)
  else if c = 'u' then some (readCharacterNumber 'u' 4)
  else if c = 'U' then some (readCharacterNumber 'U' 8)
  else if c = 'N' then some (readCharacterName named)
  else none

/-- Octal numbers of characters are not above this one. -/
def octalLimit : Nat := 0o377

/-- An escape inside a character class. -/
def readClassEscape (named : String → Option Char) (c : Char) : Reader ClassItem := do
  match controlEscape? c, kindEscape? c, characterEscape? named c with
  | some n, _, _ => return .one n
  | _, some item, _ => return item
  | _, _, some read => return .one (← read)
  | _, _, _ =>
    if isOctal c then
      let ds ← takeChars isOctal 2
      let n := numberIn 8 (c :: ds)
      if n ≤ octalLimit then return .one n
      else malformed (.largeOctal ('\\' :: c :: ds)) (ds.length + 2)
    else if isDecimalDigit c || isAsciiLetter c then malformed (.unknownEscape ['\\', c]) 2
    else return .one c.toNat

/-- What digits after a backslash stand for: a character, when they are octal and three, and a group
    otherwise. -/
def readNumbered (octal : Bool) (ds : List Char) : Reader Node := do
  if octal then
    let n := numberIn 8 ds
    if n ≤ octalLimit then return .one false n
    else malformed (.largeOctal ('\\' :: ds)) (ds.length + 1)
  else
    let n := numberIn 10 ds
    if groupCount (← get) ≤ n then malformed (.noGroup n) ds.length
    checkReference n (ds.length + 1)
    return .reference n

/-- A reference to a group by number, or an octal number of three digits. -/
def readNumberEscape (c : Char) : Reader Node := do
  let second ← takeChars isDecimalDigit 1
  let third ← match second with
    | [d] => if isOctal c && isOctal d then takeChars isOctal 1 else pure []
    | _ => pure []
  readNumbered (!third.isEmpty) (c :: (second ++ third))

/-- An escape outside a character class. -/
def readEscape (named : String → Option Char) (c : Char) : Reader Node := do
  match anchorEscape? c, kindEscape? c, controlEscape? c, characterEscape? named c with
  | some a, _, _, _ => return .anchor a
  | _, some item, _, _ => return .oneOf false [item]
  | _, _, some n, _ => return .one false n
  | _, _, _, some read => return .one false (← read)
  | _, _, _, _ =>
    if c = '0' then return .one false (numberIn 8 (← takeChars isOctal 2))
    else if isDecimalDigit c then readNumberEscape c
    else if isAsciiLetter c then malformed (.unknownEscape ['\\', c]) 2
    else return .one false c.toNat

/-! ## Character classes -/

/-- A member of a class that begins with a mark. -/
def readClassItem (named : String → Option Char) : Mark → Reader ClassItem
  | .plain c => return .one c.toNat
  | .escaped c => readClassEscape named c

/-- The range between two members of a class. -/
def rangeOf? : ClassItem → ClassItem → Option ClassItem
  | .one low, .one high => if low ≤ high then some (.range low high) else none
  | _, _ => none

/-- The members of a class up to its closing bracket; a bracket that comes first is a member. At
    most `fuel` members are read. That the class has no end shows where it begins. -/
def readClassItems (named : String → Option Char) (start : Nat) :
    Nat → List ClassItem → Reader (List ClassItem)
  | 0, _ => malformedAt start .unclosedClass
  | fuel + 1, acc => do
    match ← next with
    | none => malformedAt start .unclosedClass
    | some m =>
      if m = .plain ']' && !acc.isEmpty then return acc
      else
        let low ← readClassItem named m
        if ← accept '-' then
          match ← next with
          | none => malformedAt start .unclosedClass
          | some m' =>
            if m' = .plain ']' then return acc ++ [low, .one '-'.toNat]
            else
              let high ← readClassItem named m'
              match rangeOf? low high with
              | some range => readClassItems named start fuel (acc ++ [range])
              | none =>
                malformed (.badRange m.chars m'.chars) (m.chars.length + 1 + m'.chars.length)
        else readClassItems named start fuel (acc ++ [low])

/-- A class of a single code point is that code point. -/
def classNode (negated : Bool) (items : List ClassItem) : Node :=
  match items.eraseDups with
  | [.one c] => .one negated c
  | distinct => .oneOf negated distinct

/-- A class whose opening bracket, at a position, has been read. -/
def readClass (named : String → Option Char) (start : Nat) : Reader Node := do
  let negated ← accept '^'
  let items ← readClassItems named start ((← get).rest.length + 1) []
  return classNode negated items

end SourceCensus.Pattern
