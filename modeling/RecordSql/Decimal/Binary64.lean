import RecordSql.Decimal.Power

/-!
# Binary floating-point words

A `Binary64` is the 64-bit word of a double-precision number, so that two values are equal when their
words are.

- `significand`, `scale`: a finite word stands for `± significand · 2 ^ scale`.
- `ofDecimal`, `ofNat`: the nearest word to an exact decimal or natural number.
- `ofBinary32`: the word of a single-precision number.
-/

namespace RecordSql.Decimal

/-- The word of a double-precision number. -/
structure Binary64 where
  bits : UInt64
  deriving DecidableEq, Repr, Inhabited

namespace Binary64

/-- The sign bit. -/
def negative (x : Binary64) : Bool :=
  x.bits.toNat / twoTo 63 == 1

/-- The biased exponent, eleven bits. -/
def exponentField (x : Binary64) : Nat :=
  x.bits.toNat / twoTo 52 % twoTo 11

/-- The stored fraction, fifty-two bits. -/
def fraction (x : Binary64) : Nat :=
  x.bits.toNat % twoTo 52

/-- Neither infinite nor a NaN. -/
def isFinite (x : Binary64) : Bool :=
  x.exponentField != 2047

/-- A NaN: the largest exponent with a fraction. -/
def isNaN (x : Binary64) : Bool :=
  x.exponentField == 2047 && x.fraction != 0

/-- The integral significand: the fraction, with the leading bit of a normal number. -/
def significand (x : Binary64) : Nat :=
  if x.exponentField = 0 then x.fraction else twoTo 52 + x.fraction

/-- The power of two that the significand counts. -/
def scale (x : Binary64) : Int :=
  (max x.exponentField 1 : Nat) - 1075

/-- The word with the given sign, exponent field and fraction. -/
def ofFields (negative : Bool) (exponent fraction : Nat) : Binary64 :=
  ⟨UInt64.ofNat ((if negative then twoTo 63 else 0) + exponent * twoTo 52 + fraction)⟩

/-- The nearest word to `± mantissa · 10 ^ exponent`. -/
def ofDecimal (negative : Bool) (mantissa : Nat) (exponent : Int) : Binary64 :=
  let magnitude := Float.ofScientific mantissa (exponent < 0) exponent.natAbs
  ⟨magnitude.toBits ||| (if negative then 0x8000000000000000 else 0)⟩

/-- The nearest word to a natural number. -/
def ofNat (n : Nat) : Binary64 :=
  ofDecimal false n 0

/-- The word of a single-precision number. A subnormal one is normalized, and a NaN becomes quiet. -/
def ofBinary32 (word : UInt32) : Binary64 :=
  let n := word.toNat
  let negative := n / twoTo 31 == 1
  let exponent := n / twoTo 23 % twoTo 8
  let fraction := n % twoTo 23
  if exponent = 255 then
    ofFields negative 2047 (if fraction = 0 then 0 else (fraction * twoTo 29) ||| twoTo 51)
  else if exponent = 0 then
    if fraction = 0 then ofFields negative 0 0
    else ofFields negative (874 + fraction.log2) (fraction * twoTo (52 - fraction.log2) - twoTo 52)
  else ofFields negative (exponent + 896) (fraction * twoTo 29)

end Binary64

end RecordSql.Decimal
