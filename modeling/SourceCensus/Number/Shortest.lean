import SourceCensus.Number.Power

/-! # The shortest decimal text of a double

    A double is written with the fewest decimal digits that read back as the same double,
    and of several such numbers the nearest one is taken.

    ## Method

    A finite positive double is `m * 2 ^ q`, and the reals that round to it form an interval
    around it whose ends belong to it exactly when `m` is even. For one digit, two digits,
    and so on, the two neighbours of the value among the decimals with that many digits are
    tested against the interval. Seventeen digits always suffice.

    ## Form

    A value from `10 ^ -4` on and below `10 ^ 16` is written positionally, with at least one
    digit on each side of the point. All else has one digit before the point and an
    exponent with a sign and at least two digits.
-/

namespace SourceCensus.Number

/-! ## Taking a double apart -/

/-- A finite positive double as significand and binary exponent. -/
structure Binary where
  /-- Significand. -/
  m : Nat
  /-- Exponent of two. -/
  q : Int
  deriving DecidableEq, Repr

/-- The parts of a positive finite double from its bits. -/
def Binary.ofBits (bits : Nat) : Binary :=
  let exponent : Nat := bits / leadingBit
  let fraction : Nat := bits % leadingBit
  if exponent = 0 then ⟨fraction, -1074⟩ else ⟨fraction + leadingBit, exponent - 1075⟩

/-- `n * 10 ^ k` and `d` brought to whole numbers: the pair stands for the quotient of its parts. -/
def scaleTen (n d : Nat) (k : Int) : Nat × Nat :=
  if k < 0 then (n, d * tenTo (-k).toNat) else (n * tenTo k.toNat, d)

/-- The value `n * 2 ^ q` as a quotient. -/
def scaleTwo (n : Nat) (q : Int) : Nat × Nat :=
  if q < 0 then (n, twoTo (-q).toNat) else (n * twoTo q.toNat, 1)

/-! ## The interval -/

/-- The double of the next smaller magnitude is half as far away as the next larger one. -/
def Binary.narrowBelow (b : Binary) : Bool := b.m = leadingBit && b.q > -1074

/-- `d * 10 ^ k` lies among the reals that round to the double. -/
def Binary.roundsHere (b : Binary) (d : Nat) (k : Int) : Bool :=
  let low := scaleTwo (if b.narrowBelow then 4 * b.m - 1 else 4 * b.m - 2) (b.q - 2)
  let high := scaleTwo (4 * b.m + 2) (b.q - 2)
  let x := scaleTen d 1 k
  let closed := b.m % 2 = 0
  let above := low.1 * x.2 < x.1 * low.2 || (closed && low.1 * x.2 = x.1 * low.2)
  let below := x.1 * high.2 < high.1 * x.2 || (closed && x.1 * high.2 = high.1 * x.2)
  above && below

/-! ## The digits -/

/-- A positive decimal `digits * 10 ^ exponent`. -/
structure Decimal where
  /-- The digits as a number. -/
  digits : Nat
  /-- Exponent of ten. -/
  exponent : Int
  deriving DecidableEq, Repr

/-- The value is at least `10 ^ k`. -/
def Binary.reachesTen (b : Binary) (k : Int) : Bool :=
  let v := scaleTwo b.m b.q
  let t := scaleTen 1 1 k
  t.1 * v.2 ≤ v.1 * t.2

/-- The largest power of ten that does not exceed the value, searched downwards from `start`. -/
def Binary.floorTen (b : Binary) (start : Int) : Nat → Int
  | 0 => start
  | fuel + 1 => if b.reachesTen start then start else b.floorTen (start - 1) fuel

/-- The neighbours of the value on the grid of multiples of `10 ^ k`: the nearer one that rounds
    to the double, if any does; at equal distance the even one. -/
def Binary.onGrid? (b : Binary) (k : Int) : Option Decimal :=
  let v := scaleTwo b.m b.q
  let s := scaleTen v.1 v.2 (-k)
  let d := s.1 / s.2
  let r := s.1 % s.2
  let down := b.roundsHere d k
  let up := b.roundsHere (d + 1) k
  if down && up then
    if 2 * r < s.2 || (2 * r = s.2 && d % 2 = 0) then some ⟨d, k⟩ else some ⟨d + 1, k⟩
  else if down then some ⟨d, k⟩
  else if up then some ⟨d + 1, k⟩
  else none

/-- The first grid with a neighbour that rounds to the double, from coarse to fine. -/
def Binary.firstGrid (b : Binary) (k : Int) : Nat → Decimal
  | 0 => ⟨b.m, k⟩
  | fuel + 1 => (b.onGrid? k).getD (b.firstGrid (k - 1) fuel)

/-- The shortest decimal that reads back as the double. -/
def Binary.shortest (b : Binary) : Decimal :=
  b.firstGrid (b.floorTen 308 640) 20

/-! ## The text -/

/-- Zeros at the end of the digits are moved into the exponent. -/
def Decimal.trimZeros (d : Decimal) : Nat → Decimal
  | 0 => d
  | fuel + 1 =>
    if d.digits % 10 = 0 then Decimal.trimZeros ⟨d.digits / 10, d.exponent + 1⟩ fuel else d

/-- The exponent with its sign and at least two digits. -/
def exponentText (e : Int) : List Char :=
  let digits := Nat.toDigits 10 e.natAbs
  (if e < 0 then '-' else '+') :: (if digits.length < 2 then '0' :: digits else digits)

/-- The text of a positive decimal without trailing zeros. -/
def Decimal.text (d : Decimal) : List Char :=
  let digits := Nat.toDigits 10 d.digits
  let point : Int := digits.length + d.exponent
  if -4 < point && point ≤ 16 then
    if point ≤ 0 then
      '0' :: '.' :: (List.replicate (-point).toNat '0' ++ digits)
    else if (digits.length : Int) ≤ point then
      digits ++ List.replicate (point - digits.length).toNat '0' ++ ['.', '0']
    else
      digits.take point.toNat ++ '.' :: digits.drop point.toNat
  else
    let head := digits.take 1
    let tail := digits.drop 1
    head ++ (if tail.isEmpty then [] else '.' :: tail) ++ 'e' :: exponentText (point - 1)

/-- The spellings of the values that have no digits. -/
structure SpecialNames where
  /-- Spelling of a value that is no number. -/
  nan : String
  /-- Spelling of infinity without its sign. -/
  infinity : String

/-- The text of a double, with the given spellings of the values that have no digits. -/
def doubleText (names : SpecialNames) (x : Float) : String :=
  let bits := x.toBits.toNat
  let magnitude := bits % signBit
  let sign := if signBit ≤ bits then "-" else ""
  if x.isNaN then names.nan
  else if magnitude = 0x7ff0000000000000 then sign ++ names.infinity
  else if magnitude = 0 then sign ++ "0.0"
  else sign ++ String.ofList ((Binary.ofBits magnitude).shortest.trimZeros 20).text

end SourceCensus.Number
