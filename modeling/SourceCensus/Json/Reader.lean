import SourceCensus.Json.Value
import SourceCensus.Number.Rounding
import SourceCensus.Text.Line

/-! # Reading JSON

    A document is one value with blanks around it. Every reader takes the characters that are left
    and returns what it read together with a shorter rest, so that reading ends.

    Beyond the standard, `NaN`, `Infinity` and `-Infinity` are numbers. Control characters do not
    stand in strings unescaped. An escaped pair of surrogates is one character; a surrogate that
    stands alone is read as the replacement character. An integer may have any number of digits:
    no limit is set on them here. A number with a fraction or an exponent is the double nearest to
    it, infinity when it is too large.

    ## Errors

    A document that cannot be read has a flaw at some place. A reader knows the place by what is
    left from there on, and the message about the flaw counts it from the start of the document.
-/

namespace SourceCensus.Json

open Number

/-- What is left of `t` after at least one character was read. -/
abbrev Rest (t : List Char) := { r : List Char // r.length < t.length }

/-! ## Errors -/

/-- What is wrong with a document. -/
inductive Flaw where
  /-- A byte order mark begins it. -/
  | byteOrderMark
  /-- No value stands where one has to. -/
  | value
  /-- No name of a member stands where one has to. -/
  | name
  /-- No colon follows the name of a member. -/
  | colon
  /-- Neither a comma nor the end follows a value. -/
  | comma
  /-- A string has no end. -/
  | openString
  /-- A control character stands in a string. -/
  | control
  /-- A letter after a backslash means nothing. -/
  | escape
  /-- No four digits follow the letter for them. -/
  | unicode
  /-- Something follows the value. -/
  | extra
  deriving DecidableEq, Repr

/-- The text of a flaw. -/
def Flaw.text : Flaw → String
  | .byteOrderMark => "Unexpected UTF-8 BOM (decode using utf-8-sig)"
  | .value => "Expecting value"
  | .name => "Expecting property name enclosed in double quotes"
  | .colon => "Expecting ':' delimiter"
  | .comma => "Expecting ',' delimiter"
  | .openString => "Unterminated string starting at"
  | .control => "Invalid control character at"
  | .escape => "Invalid \\escape"
  | .unicode => "Invalid \\uXXXX escape"
  | .extra => "Extra data"

/-- Why a document cannot be read. -/
structure ReadError where
  /-- What is wrong. -/
  flaw : Flaw
  /-- How many characters are left where it shows. -/
  left : Nat
  deriving DecidableEq, Repr

/-- The message about an error of a document. -/
def ReadError.message (document : Text) (e : ReadError) : String :=
  let position := document.length - e.left
  let (line, column) := document.lineAndColumn position
  e.flaw.text ++ ": line " ++ toString line ++ " column " ++ toString column ++
    " (char " ++ toString position ++ ")"

/-- A document has a flaw, which shows before the characters that are left. -/
def refuse {α : Type} (flaw : Flaw) (left : List Char) : Except ReadError α :=
  .error ⟨flaw, left.length⟩

/-! ## Blanks and literals -/

/-- The blanks that may stand between the parts of a document. -/
def isJsonBlank (c : Char) : Bool := c = ' ' || c = '\t' || c = '\n' || c = '\r'

/-- The text from the first character that is no blank. -/
def skipBlanks (t : List Char) : List Char := t.dropWhile isJsonBlank

theorem length_skipBlanks_le (t : List Char) : (skipBlanks t).length ≤ t.length :=
  (List.dropWhile_sublist isJsonBlank).length_le

theorem length_le_of_skipBlanks {t r : List Char} (h : skipBlanks t = r) : r.length ≤ t.length :=
  h ▸ length_skipBlanks_le t

/-- The text after a word it begins with. -/
def after? : List Char → List Char → Option (List Char)
  | [], t => some t
  | _ :: _, [] => none
  | w :: ws, c :: rest => if w = c then after? ws rest else none

/-! ## Strings -/

/-- The value of a hexadecimal digit. -/
def hexValue? (c : Char) : Option Nat :=
  if '0' ≤ c && c ≤ '9' then some (c.toNat - 0x30)
  else if 'a' ≤ c && c ≤ 'f' then some (c.toNat - 0x57)
  else if 'A' ≤ c && c ≤ 'F' then some (c.toNat - 0x37)
  else none

/-- The value of four hexadecimal digits. -/
def hexQuad? (a b c d : Char) : Option Nat := do
  let a ← hexValue? a
  let b ← hexValue? b
  let c ← hexValue? c
  let d ← hexValue? d
  return ((a * 16 + b) * 16 + c) * 16 + d

/-- The character that a letter after a backslash stands for. -/
def escapedChar? (c : Char) : Option Char :=
  if c = '\x22' || c = '\\' || c = '/' then some c
  else if c = 'b' then some '\x08'
  else if c = 'f' then some '\x0c'
  else if c = 'n' then some '\n'
  else if c = 'r' then some '\r'
  else if c = 't' then some '\t'
  else none

/-- The first half of a pair. -/
def isLeadSurrogate (n : Nat) : Bool := 0xd800 ≤ n && n ≤ 0xdbff

/-- The second half of a pair. -/
def isTrailSurrogate (n : Nat) : Bool := 0xdc00 ≤ n && n ≤ 0xdfff

/-- The character of a code unit that stands alone. -/
def unitChar (n : Nat) : Char :=
  if isLeadSurrogate n || isTrailSurrogate n then '\ufffd' else Char.ofNat n

/-- The trailing half of a pair where a lead has been read: nothing when no escape follows or it
    is no trailing half. Something has to follow the escape. -/
def readTrail : List Char → Except ReadError (Option Nat)
  | '\\' :: 'u' :: a :: b :: c :: d :: rest =>
    if rest.isEmpty then .ok none
    else
      match hexQuad? a b c d with
      | none => refuse .unicode ('u' :: a :: b :: c :: d :: rest)
      | some m => .ok (if isTrailSurrogate m then some m else none)
  | _ => .ok none

/-- The character of two halves of a pair. -/
def pairChar (lead trail : Nat) : Char :=
  Char.ofNat (0x10000 + (lead - 0xd800) * 0x400 + (trail - 0xdc00))

/-- The character that a backslash, the letter u and four digits stand for, with a second such
    group when the two make a pair, and the text after it, which is not empty. -/
def readUnicode (t : List Char) : Except ReadError (Char × List Char) :=
  match t with
  | a :: b :: c :: d :: rest =>
    if rest.isEmpty then refuse .unicode ('u' :: t)
    else
      match hexQuad? a b c d with
      | none => refuse .unicode ('u' :: t)
      | some n =>
        if isLeadSurrogate n then
          match readTrail rest with
          | .error e => .error e
          | .ok none => .ok (unitChar n, rest)
          | .ok (some m) => .ok (pairChar n m, rest.drop 6)
        else .ok (unitChar n, rest)
  | _ => refuse .unicode ('u' :: t)

theorem length_readUnicode {t : List Char} {p : Char × List Char} (h : readUnicode t = .ok p) :
    p.2.length < t.length := by
  have hok : ∀ {u : Char} {r : List Char},
      (.ok (u, r) : Except ReadError (Char × List Char)) = .ok p → p.2 = r :=
    fun heq => (congrArg Prod.snd (Except.ok.inj heq)).symm
  unfold readUnicode at h
  split at h
  · split at h
    · cases h
    · split at h
      · cases h
      · split at h
        · split at h
          · cases h
          · rw [hok h]
            simp only [List.length_cons]
            omega
          · rw [hok h]
            simp only [List.length_cons, List.length_drop]
            omega
        · rw [hok h]
          simp only [List.length_cons]
          omega
  · cases h

/-- The characters up to the closing quote, and the text after it. That there is no such quote shows
    where `start` characters are left. -/
def readChars (start : Nat) : (t : List Char) → Except ReadError (List Char × Rest t)
  | [] => .error ⟨.openString, start⟩
  | c :: rest =>
    if c = '\x22' then .ok ([], ⟨rest, Nat.lt_succ_self _⟩)
    else if c.toNat < 0x20 then refuse .control (c :: rest)
    else if c = '\\' then
      match rest with
      | [] => .error ⟨.openString, start⟩
      | e :: more =>
        if e = 'u' then
          match h : readUnicode more with
          | .error e => .error e
          | .ok (u, tail) =>
            have shorter : tail.length < more.length := length_readUnicode h
            match readChars start tail with
            | .error e => .error e
            | .ok (cs, ⟨r, hr⟩) =>
              .ok (u :: cs, ⟨r, Nat.lt_succ_of_lt (Nat.lt_succ_of_lt (Nat.lt_trans hr shorter))⟩)
        else
          match escapedChar? e with
          | none => refuse .escape (c :: e :: more)
          | some u =>
            match readChars start more with
            | .error e => .error e
            | .ok (cs, ⟨r, hr⟩) => .ok (u :: cs, ⟨r, Nat.lt_succ_of_lt (Nat.lt_succ_of_lt hr)⟩)
    else
      match readChars start rest with
      | .error e => .error e
      | .ok (cs, ⟨r, hr⟩) => .ok (c :: cs, ⟨r, Nat.lt_succ_of_lt hr⟩)
termination_by t => t.length
decreasing_by all_goals simp only [List.length_cons] <;> omega

/-! ## Numbers -/

/-- The value of an ASCII digit. -/
def digitValue (c : Char) : Nat := c.toNat - 0x30

/-- An ASCII digit. -/
def isAsciiDigit (c : Char) : Bool := '0' ≤ c && c ≤ '9'

/-- The number that a list of ASCII digits stands for. -/
def natOfDigits (ds : List Char) : Nat := ds.foldl (fun n c => n * 10 + digitValue c) 0

/-- The digits of a whole number: a zero alone, or a digit from one to nine and all that follow. -/
def wholeDigits (t : List Char) : List Char :=
  match t with
  | [] => []
  | c :: _ => if c = '0' then [c] else t.takeWhile isAsciiDigit

theorem length_wholeDigits_le (t : List Char) : (wholeDigits t).length ≤ t.length := by
  unfold wholeDigits
  split
  · simp
  · split
    · simp
    · exact (List.takeWhile_sublist _).length_le

/-- The digits of a fraction: a point needs one digit at least. -/
def fractionDigits : List Char → List Char
  | c :: rest => if c = '.' then rest.takeWhile isAsciiDigit else []
  | [] => []

/-- An exponent and the number of characters that write it. -/
def exponentPart : List Char → Option (Int × Nat)
  | c :: rest =>
    if c = 'e' || c = 'E' then
      let (negative, digits, signs) := match rest with
        | '-' :: more => (true, more.takeWhile isAsciiDigit, 1)
        | '+' :: more => (false, more.takeWhile isAsciiDigit, 1)
        | _ => (false, rest.takeWhile isAsciiDigit, 0)
      if digits.isEmpty then none
      else
        let n : Int := natOfDigits digits
        some (if negative then -n else n, 1 + signs + digits.length)
    else none
  | [] => none

/-- The double nearest to `digits * 10 ^ exponent`. Exponents far outside the range of doubles
    are decided without computing the power. -/
def decimalDouble (negative : Bool) (digits : Nat) (exponent : Int) : Float :=
  let places : Int := (Nat.toDigits 10 digits).length
  let magnitude :=
    if digits = 0 || places + exponent < -400 then some 0
    else if 400 < places + exponent then none
    else if exponent < 0 then magnitudeBits? digits (tenTo (-exponent).toNat)
    else magnitudeBits? (digits * tenTo exponent.toNat) 1
  ofBits negative (magnitude.getD infinityBits)

/-- A number without its sign. -/
def readMagnitude? (negative : Bool) (t : List Char) : Option (Value × Rest t) :=
  let whole := wholeDigits t
  if hw : whole.length = 0 then none
  else
    let rest := t.drop whole.length
    let fraction := fractionDigits rest
    let tail := if fraction.isEmpty then rest else rest.drop (fraction.length + 1)
    have ht : tail.length < t.length := by
      have hle : whole.length ≤ t.length := length_wholeDigits_le t
      have hrest : rest.length = t.length - whole.length := List.length_drop
      simp only [tail]
      split
      · omega
      · rw [List.length_drop]; omega
    match exponentPart tail with
    | none =>
      if fraction.isEmpty then
        let n : Int := natOfDigits whole
        some (.int (if negative then -n else n), ⟨tail, ht⟩)
      else
        some (.float (decimalDouble negative (natOfDigits (whole ++ fraction))
          (-(fraction.length : Int))), ⟨tail, ht⟩)
    | some (e, size) =>
      some (.float (decimalDouble negative (natOfDigits (whole ++ fraction))
        (e - fraction.length)), ⟨tail.drop size, by rw [List.length_drop]; omega⟩)

/-- Positive infinity. -/
def positiveInfinity : Float := ofBits false infinityBits

/-- A value that is no number. -/
def notANumber : Float := ofBits false (infinityBits + twoTo 51)

/-- The words that stand for values. -/
def literals : List (List Char × Value) :=
  [("null".toList, .null), ("true".toList, .bool true), ("false".toList, .bool false),
   ("NaN".toList, .float notANumber), ("Infinity".toList, .float positiveInfinity),
   ("-Infinity".toList, .float (-positiveInfinity))]

/-- The word that begins a text. -/
def readLiteral? (t : List Char) : Option (Value × Rest t) :=
  literals.findSome? fun (word, v) =>
    match after? word t with
    | none => none
    | some r => if h : r.length < t.length then some (v, ⟨r, h⟩) else none

/-- A number with its sign. -/
def readNumber? : (t : List Char) → Option (Value × Rest t)
  | '-' :: rest =>
    match readMagnitude? true rest with
    | none => none
    | some (v, ⟨r, hr⟩) => some (v, ⟨r, Nat.lt_succ_of_lt hr⟩)
  | t => readMagnitude? false t

/-! ## Values -/

mutual

/-- The value that begins a text. -/
def readValue (t : List Char) : Except ReadError (Value × Rest t) :=
  match t with
  | [] => refuse .value []
  | c :: rest =>
    if c = '\x22' then
      match readChars (c :: rest).length rest with
      | .error e => .error e
      | .ok (cs, ⟨r, hr⟩) => .ok (.string (String.ofList cs), ⟨r, Nat.lt_succ_of_lt hr⟩)
    else if c = '[' then
      match hs : skipBlanks rest with
      | [] => refuse .value []
      | d :: more =>
        have inner : (d :: more).length < (c :: rest).length :=
          Nat.lt_succ_of_le (length_le_of_skipBlanks hs)
        if d = ']' then .ok (.array [], ⟨more, Nat.lt_of_succ_lt inner⟩)
        else
          match readItems (d :: more) with
          | .error e => .error e
          | .ok (vs, ⟨r, hr⟩) => .ok (.array vs, ⟨r, Nat.lt_trans hr inner⟩)
    else if c = '{' then
      match hs : skipBlanks rest with
      | [] => refuse .name []
      | d :: more =>
        have inner : (d :: more).length < (c :: rest).length :=
          Nat.lt_succ_of_le (length_le_of_skipBlanks hs)
        if d = '}' then .ok (.object [], ⟨more, Nat.lt_of_succ_lt inner⟩)
        else
          match readMembers (d :: more) with
          | .error e => .error e
          | .ok (ms, ⟨r, hr⟩) => .ok (.object (Members.ofList ms), ⟨r, Nat.lt_trans hr inner⟩)
    else
      match (readLiteral? (c :: rest)).or (readNumber? (c :: rest)) with
      | some result => .ok result
      | none => refuse .value (c :: rest)
termination_by (t.length, 0)

/-- The items of an array whose opening bracket has been read, up to the closing one. -/
def readItems (t : List Char) : Except ReadError (List Value × Rest t) :=
  match readValue t with
  | .error e => .error e
  | .ok (v, ⟨r, hr⟩) =>
    match hs : skipBlanks r with
    | [] => refuse .comma []
    | d :: more =>
      have shorter : more.length < t.length :=
        Nat.lt_of_succ_lt (Nat.lt_of_le_of_lt (length_le_of_skipBlanks hs) hr)
      if d = ']' then .ok ([v], ⟨more, shorter⟩)
      else if d = ',' then
        have next : (skipBlanks more).length < t.length :=
          Nat.lt_of_le_of_lt (length_skipBlanks_le more) shorter
        match readItems (skipBlanks more) with
        | .error e => .error e
        | .ok (vs, ⟨r', hr'⟩) => .ok (v :: vs, ⟨r', Nat.lt_trans hr' next⟩)
      else refuse .comma (d :: more)
termination_by (t.length, 1)

/-- The members of an object whose opening brace has been read, up to the closing one. -/
def readMembers (t : List Char) : Except ReadError (List (String × Value) × Rest t) :=
  match t with
  | [] => refuse .name []
  | q :: rest =>
    if q = '\x22' then
      match readChars (q :: rest).length rest with
      | .error e => .error e
      | .ok (key, ⟨r, hr⟩) =>
        match hs : skipBlanks r with
        | [] => refuse .colon []
        | d :: more =>
          have shorter : more.length < (q :: rest).length :=
            Nat.lt_succ_of_lt
              (Nat.lt_of_succ_lt (Nat.lt_of_le_of_lt (length_le_of_skipBlanks hs) hr))
          if d = ':' then
            have atValue : (skipBlanks more).length < (q :: rest).length :=
              Nat.lt_of_le_of_lt (length_skipBlanks_le more) shorter
            match readValue (skipBlanks more) with
            | .error e => .error e
            | .ok (v, ⟨r', hr'⟩) =>
              match hs' : skipBlanks r' with
              | [] => refuse .comma []
              | e :: more' =>
                have shorter' : more'.length < (q :: rest).length :=
                  Nat.lt_of_succ_lt
                    (Nat.lt_of_le_of_lt (length_le_of_skipBlanks hs') (Nat.lt_trans hr' atValue))
                if e = '}' then
                  .ok ([(String.ofList key, v)], ⟨more', shorter'⟩)
                else if e = ',' then
                  have next : (skipBlanks more').length < (q :: rest).length :=
                    Nat.lt_of_le_of_lt (length_skipBlanks_le more') shorter'
                  match readMembers (skipBlanks more') with
                  | .error e => .error e
                  | .ok (ms, ⟨r'', hr''⟩) =>
                    .ok ((String.ofList key, v) :: ms, ⟨r'', Nat.lt_trans hr'' next⟩)
                else refuse .comma (e :: more')
          else refuse .colon (d :: more)
    else refuse .name (q :: rest)
termination_by (t.length, 1)

end

/-- The value that a whole document holds. -/
def read (t : List Char) : Except ReadError Value :=
  if t.head? = some '\ufeff' then refuse .byteOrderMark t
  else
    match readValue (skipBlanks t) with
    | .error e => .error e
    | .ok (v, ⟨r, _⟩) =>
      match skipBlanks r with
      | [] => .ok v
      | c :: rest => refuse .extra (c :: rest)

end SourceCensus.Json
