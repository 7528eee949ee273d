import SourceCensus.Json.Value
import SourceCensus.Number.Integer
import SourceCensus.Number.Shortest

/-! # Integers from JSON values

    A value that is meant as an integer may come as one, as a truth value, as a double, of
    which the fraction is cut off, or as a text. `toInteger` reads it, and says why when it
    cannot.
-/

namespace SourceCensus.Json

open Number

/-- Why a value is no integer. -/
inductive IntegerError where
  /-- The text does not write an integer. -/
  | unreadable (s : String)
  /-- The double is infinite. -/
  | infinite
  /-- The double is no number. -/
  | notANumber
  /-- The value is of a type that has no integers. -/
  | wrongType (typeName : String)
  deriving DecidableEq, Repr

/-- The text of an integer error. -/
def IntegerError.message : IntegerError → String
  | .unreadable s => unreadableText s
  | .infinite => "cannot convert float infinity to integer"
  | .notANumber => "cannot convert float NaN to integer"
  | .wrongType typeName =>
    "int() argument must be a string, a bytes-like object or a real number, not '"
      ++ typeName ++ "'"

/-- The integer next to a finite double on the side of zero. -/
def truncated (x : Float) : Int :=
  let bits := x.toBits.toNat
  let b := Binary.ofBits (bits % signBit)
  let magnitude := if 0 ≤ b.q then b.m * twoTo b.q.toNat else b.m / twoTo (-b.q).toNat
  if bits < signBit then magnitude else -magnitude

/-- The integer that a value stands for. -/
def Value.toInteger : Value → Except IntegerError Int
  | .int n => .ok n
  | .bool b => .ok (if b then 1 else 0)
  | .float x =>
    if x.isNaN then .error .notANumber
    else if x.isInf then .error .infinite
    else .ok (truncated x)
  | .string s =>
    match readInteger? s.toList with
    | some n => .ok n
    | none => .error (.unreadable s)
  | v => .error (.wrongType v.typeName)

end SourceCensus.Json
