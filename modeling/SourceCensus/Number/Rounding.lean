import SourceCensus.Number.Power

/-! # Rounding to double precision

    A double is a significand times a power of two. A positive quotient of natural numbers
    is brought to the double nearest to it, and a quotient half way between two doubles to
    the one with the even significand. Quotients too large for a double are refused.

    The work is done on natural numbers: `significand` scales the quotient by a power of
    two, `roundQuotient` rounds the division, and the bits are packed by one formula that
    is right for normal and subnormal doubles alike, since the next double after the
    largest of one exponent is the smallest of the next.
-/

namespace SourceCensus.Number

/-- Division rounded to the nearest integer, a half going to the even neighbour. -/
def roundQuotient (num den : Nat) : Nat :=
  let q := num / den
  let r := num % den
  if 2 * r < den then q
  else if den < 2 * r then q + 1
  else if q % 2 = 0 then q else q + 1

/-- The quotient `num / den` in units of `2 ^ exponent`, rounded. -/
def significand (num den : Nat) (exponent : Int) : Nat :=
  if exponent < 0 then roundQuotient (num * twoTo (-exponent).toNat) den
  else roundQuotient num (den * twoTo exponent.toNat)

/-- `num / den` is at least `2 ^ power`. -/
def reachesPower (num den : Nat) (power : Int) : Bool :=
  if power < 0 then den ≤ num * twoTo (-power).toNat else den * twoTo power.toNat ≤ num

/-- The largest power of two that does not exceed a positive quotient. -/
def floorLog (num den : Nat) : Int :=
  let guess : Int := (num.log2 : Int) - den.log2
  if reachesPower num den guess then guess else guess - 1

/-- The exponent of the unit in which a positive quotient is rounded: 53 significant bits, and
    no unit smaller than the smallest double. -/
def unitExponent (num den : Nat) : Int := max (floorLog num den - 52) (-1074)

/-- The bits of infinity; every finite magnitude has smaller ones. -/
def infinityBits : Nat := 0x7ff0000000000000

/-- The bits of the double nearest to a quotient, or nothing when it is too large. -/
def magnitudeBits? (num den : Nat) : Option Nat :=
  if num = 0 then some 0
  else
    let e := unitExponent num den
    let bits := (e + 1074).toNat * leadingBit + significand num den e
    if bits < infinityBits then some bits else none

/-- A double with a sign and the bits of its magnitude. -/
def ofBits (negative : Bool) (magnitude : Nat) : Float :=
  Float.ofBits (UInt64.ofNat (if negative then signBit + magnitude else magnitude))

/-- The double nearest to a quotient with a positive divisor, or nothing when it is too large. -/
def quotient? (num : Int) (den : Nat) : Option Float :=
  (magnitudeBits? num.natAbs den).map (ofBits (num < 0))

/-- The double nearest to an integer, or nothing when it is too large. -/
def double? (n : Int) : Option Float := quotient? n 1

end SourceCensus.Number
