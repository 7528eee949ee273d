/-! # Powers of two and ten

    Doubles count in powers of two and their texts in powers of ten. Both are natural numbers
    here; `signBit` and `leadingBit` are the two powers that the layout of a double singles
    out.
-/

namespace SourceCensus.Number

/-- The power of two with a given exponent. -/
def twoTo (n : Nat) : Nat := Nat.pow 2 n

/-- The power of ten with a given exponent. -/
def tenTo (n : Nat) : Nat := Nat.pow 10 n

/-- The bit above all bits of a magnitude, two to the power of 63. -/
def signBit : Nat := 0x8000000000000000

/-- The bit above all bits of a fraction, two to the power of 52. -/
def leadingBit : Nat := 0x10000000000000

end SourceCensus.Number
