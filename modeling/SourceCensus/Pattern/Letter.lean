import SourceCensus.Pattern.Syntax
import SourceCensus.Text.Case
import SourceCensus.Text.Word
import SourceCensus.Text.Blank
import SourceCensus.Text.Digit

/-! # Single characters in patterns

    Decides whether one character matches a code point or a character class, with or without
    regard to case and in either alphabet.

    ## Case

    Characters are compared by their lower-case characters. A few lower-case characters share
    an upper-case one with others, such as the two forms of sigma, and count as equal too.
    A class is compared with the lower-case character as soon as one of its members has case.
    In such a class a single code point beyond U+FFFF is compared as it stands, and a range
    that reaches there with the upper-case character as well.
-/

namespace SourceCensus.Pattern

open Text

/-! ## Case -/

/-- For a lower-case character, the others that have the same upper-case character. -/
def sameUpper : List (Nat × List Nat) :=
  [(0x69, [0x131]), (0x73, [0x17F]), (0xB5, [0x3BC]), (0x131, [0x69]), (0x17F, [0x73]),
   (0x345, [0x3B9, 0x1FBE]), (0x390, [0x1FD3]), (0x3B0, [0x1FE3]), (0x3B2, [0x3D0]),
   (0x3B5, [0x3F5]), (0x3B8, [0x3D1]), (0x3B9, [0x345, 0x1FBE]), (0x3BA, [0x3F0]),
   (0x3BC, [0xB5]), (0x3C0, [0x3D6]), (0x3C1, [0x3F1]), (0x3C2, [0x3C3]), (0x3C3, [0x3C2]),
   (0x3C6, [0x3D5]), (0x3D0, [0x3B2]), (0x3D1, [0x3B8]), (0x3D5, [0x3C6]), (0x3D6, [0x3C0]),
   (0x3F0, [0x3BA]), (0x3F1, [0x3C1]), (0x3F5, [0x3B5]), (0x432, [0x1C80]), (0x434, [0x1C81]),
   (0x43E, [0x1C82]), (0x441, [0x1C83]), (0x442, [0x1C84, 0x1C85]), (0x44A, [0x1C86]),
   (0x463, [0x1C87]), (0x1C80, [0x432]), (0x1C81, [0x434]), (0x1C82, [0x43E]), (0x1C83, [0x441]),
   (0x1C84, [0x442, 0x1C85]), (0x1C85, [0x442, 0x1C84]), (0x1C86, [0x44A]), (0x1C87, [0x463]),
   (0x1C88, [0xA64B]), (0x1E61, [0x1E9B]), (0x1E9B, [0x1E61]), (0x1FBE, [0x345, 0x3B9]),
   (0x1FD3, [0x390]), (0x1FE3, [0x3B0]), (0xA64B, [0x1C88]), (0xFB05, [0xFB06]),
   (0xFB06, [0xFB05])]

/-- The lower-case code point in an alphabet. -/
def lowerIn (ascii : Bool) (c : Nat) : Nat :=
  if c < 0x80 then (if 0x41 ≤ c && c ≤ 0x5a then c + 0x20 else c)
  else if ascii then c else shifted lowerShifts c

/-- The upper-case code point. -/
def upperOf (c : Nat) : Nat :=
  if c < 0x80 then (if 0x61 ≤ c && c ≤ 0x7a then c - 0x20 else c) else shifted upperShifts c

/-- The code points that count as equal to a lower-case one. -/
def lowerVariants (ascii : Bool) (low : Nat) : List Nat :=
  low :: (if ascii then [] else (sameUpper.lookup low).getD [])

/-- A code point that has case. -/
def isCased (ascii : Bool) (c : Nat) : Bool :=
  lowerIn ascii c ≠ c || (if ascii then 0x61 ≤ c && c ≤ 0x7a else upperOf c ≠ c)

/-- The code points that one shift moves to a given one. -/
def Shift.sources (s : Shift) (target : Nat) : List Nat :=
  let c := (target - s.offset).toNat
  if s.first ≤ c && c ≤ s.last && (c - s.first) % s.step = 0 && c + s.offset = target then [c]
  else []

/-- The code points whose lower-case code point is a given one. -/
def lowerSources (ascii : Bool) (low : Nat) : List Nat :=
  (if lowerIn ascii low = low then [low] else [])
    ++ (if 0x61 ≤ low && low ≤ 0x7a then [low - 0x20] else [])
    ++ (if ascii then [] else lowerShifts.flatMap (Shift.sources · low))

/-- A shift moves some code point of a range. -/
def Shift.touches (s : Shift) (low high : Nat) : Bool :=
  let start := max low s.first
  let next := start + (s.step - (start - s.first) % s.step) % s.step
  next ≤ min high s.last

/-- Two ranges meet. -/
def meet (a b c d : Nat) : Bool := max a c ≤ min b d

/-- Some code point of a range has case. -/
def rangeIsCased (ascii : Bool) (low high : Nat) : Bool :=
  meet low high 0x41 0x5a || meet low high 0x61 0x7a
    || (!ascii && (lowerShifts.any (Shift.touches · low high)
      || upperShifts.any (Shift.touches · low high)))

/-! ## Members of a class -/

/-- The largest code point that is compared by its lower-case character in a class. -/
def planeEnd : Nat := 0xffff

/-- A character belongs to a named class. -/
def CharKind.holds (ascii : Bool) (k : CharKind) (c : Nat) : Bool :=
  let ch := Char.ofNat c
  match k with
  | .digit => if ascii then 0x30 ≤ c && c ≤ 0x39 else isDecimal ch
  | .space => if ascii then (9 ≤ c && c ≤ 13) || c = 0x20 else isBlank ch
  | .word => if ascii then c < 0x80 && isAsciiWord ch else isWord ch

/-- A member of a class has case. -/
def ClassItem.isCased (ascii : Bool) : ClassItem → Bool
  | .one c => planeEnd < lowerIn ascii c || Pattern.isCased ascii c
  | .range low high => planeEnd < high || rangeIsCased ascii low high
  | .kind _ _ => false

/-- A member of a class admits a code point as it stands. -/
def ClassItem.admits (ascii : Bool) (c : Nat) : ClassItem → Bool
  | .one d => c = d
  | .range low high => low ≤ c && c ≤ high
  | .kind k negated => k.holds ascii c != negated

/-- A member of a class admits a lower-case code point without regard to case. -/
def ClassItem.admitsLower (ascii : Bool) (c : Nat) : ClassItem → Bool
  | .one d =>
    let low := lowerIn ascii d
    if planeEnd < low then c = d else (lowerVariants ascii low).contains c
  | .range low high =>
    let basic := (lowerVariants ascii c).any fun v =>
      (lowerSources ascii v).any fun d => low ≤ d && d ≤ min high planeEnd
    let raised := upperOf c
    basic || (planeEnd < high && ((low ≤ c && c ≤ high) || (low ≤ raised && raised ≤ high)))
  | .kind k negated => k.holds ascii c != negated

/-! ## Comparisons -/

/-- A character is one of a class. -/
def classHolds (o : Options) (items : List ClassItem) (c : Nat) : Bool :=
  if o.ignoreCase && items.any (ClassItem.isCased o.isAscii) then
    items.any (ClassItem.admitsLower o.isAscii (lowerIn o.isAscii c))
  else items.any (ClassItem.admits o.isAscii c)

/-- A character is the one that a pattern asks for. -/
def oneHolds (o : Options) (wanted c : Nat) : Bool :=
  if o.ignoreCase && isCased o.isAscii wanted then
    (lowerVariants o.isAscii (lowerIn o.isAscii wanted)).contains (lowerIn o.isAscii c)
  else c = wanted

/-- Two characters of a repeated text are the same. -/
def sameChar (o : Options) (a b : Nat) : Bool :=
  if o.ignoreCase then lowerIn o.isAscii a = lowerIn o.isAscii b else a = b

end SourceCensus.Pattern
