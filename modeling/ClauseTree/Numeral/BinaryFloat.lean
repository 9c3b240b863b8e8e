/-!
# Binary floating-point words

A binary format is a sign bit, an exponent field and a fraction field.  A word
stands for a sign and a magnitude; the magnitudes of a format, read as natural
numbers, are in the order of the values they stand for.  That is why rounding
to nearest only has to produce a magnitude: a carry out of the fraction moves
into the exponent by itself.

All arithmetic is on natural numbers and integers.  No machine float is
involved, so the words of two different NaNs stay different.
-/

namespace ClauseTree.Numeral

-- Powers are those of the core library, also where algebraic structures are in scope.
attribute [local instance (2000)] instPowNat

/-- A quotient rounded to the nearest natural number, a half going to the even
neighbour. -/
def roundHalfEven (numerator denominator : Nat) : Nat :=
  let quotient := numerator / denominator
  let remainder := numerator % denominator
  if denominator < 2 * remainder ∨ denominator = 2 * remainder ∧ quotient % 2 = 1
  then quotient + 1 else quotient

/-- The value `significand * 2 ^ exponent`. -/
structure Dyadic where
  significand : Nat
  exponent : Int
deriving DecidableEq, Repr

/-- The widths of the two magnitude fields of a binary format. -/
structure FloatFormat where
  exponentBits : Nat
  fractionBits : Nat
deriving DecidableEq, Repr

/-- Thirty-two bits. -/
def binary32 : FloatFormat := ⟨8, 23⟩

/-- Sixty-four bits. -/
def binary64 : FloatFormat := ⟨11, 52⟩

namespace FloatFormat

/-- The exponent of the last place of the smallest magnitudes. -/
def lowestExponent (format : FloatFormat) : Int :=
  2 - 2 ^ (format.exponentBits - 1) - format.fractionBits

/-- The magnitude of infinity; those above it are NaNs. -/
def infinity (format : FloatFormat) : Nat :=
  (2 ^ format.exponentBits - 1) * 2 ^ format.fractionBits

/-- The weight of the sign bit. -/
def signWeight (format : FloatFormat) : Nat :=
  2 ^ (format.exponentBits + format.fractionBits)

/-- The value of a magnitude below infinity. -/
def value (format : FloatFormat) (magnitude : Nat) : Dyadic :=
  let field := magnitude / 2 ^ format.fractionBits
  let fraction := magnitude % 2 ^ format.fractionBits
  if field = 0 then ⟨fraction, format.lowestExponent⟩
  else ⟨2 ^ format.fractionBits + fraction, format.lowestExponent + field - 1⟩

/-- The exponent of the largest power of two that is at most the quotient of
two positive numbers. -/
def floorLog2 (numerator denominator : Nat) : Int :=
  let estimate : Int := (numerator.log2 : Int) - denominator.log2
  if denominator * 2 ^ estimate.toNat ≤ numerator * 2 ^ (-estimate).toNat
  then estimate else estimate - 1

/-- The magnitude nearest to a quotient, ties going to the even neighbour; what
is too large becomes infinity. -/
def nearest (format : FloatFormat) (numerator denominator : Nat) : Nat :=
  if numerator = 0 then 0
  else
    let exponent :=
      max format.lowestExponent
        (floorLog2 numerator denominator - format.fractionBits)
    let significand :=
      roundHalfEven (numerator * 2 ^ (-exponent).toNat)
        (denominator * 2 ^ exponent.toNat)
    min format.infinity
      ((exponent - format.lowestExponent).toNat * 2 ^ format.fractionBits + significand)

/-- Decimal exponents further out than this are zero or infinite in both
formats. -/
def decimalReach : Int := 400

/-- The magnitude nearest to `digits * 10 ^ exponent`.  A numeral whose leading
digit is out of reach is settled without writing its power of ten. -/
def nearestDecimal (format : FloatFormat) (digits : Nat) (exponent : Int) : Nat :=
  let leading : Int := exponent + digits.log2 * 30103 / 100000
  if digits = 0 ∨ leading < -decimalReach then 0
  else if decimalReach < leading then format.infinity
  else format.nearest (digits * 10 ^ exponent.toNat) (10 ^ (-exponent).toNat)

end FloatFormat

/-- A binary64 word. -/
structure Binary64 where
  bits : UInt64
deriving DecidableEq, Repr

namespace Binary64

/-- The word with the given sign and magnitude. -/
def ofMagnitude (negative : Bool) (magnitude : Nat) : Binary64 :=
  ⟨UInt64.ofNat (magnitude + if negative then binary64.signWeight else 0)⟩

def isNegative (x : Binary64) : Bool :=
  binary64.signWeight ≤ x.bits.toNat

/-- The word without its sign. -/
def magnitude (x : Binary64) : Nat :=
  x.bits.toNat % binary64.signWeight

def isNaN (x : Binary64) : Bool :=
  binary64.infinity < x.magnitude

def isInfinite (x : Binary64) : Bool :=
  x.magnitude = binary64.infinity

/-- Equality of values: the two zeros are equal and a NaN equals nothing. -/
def sameValue (x y : Binary64) : Bool :=
  !x.isNaN && !y.isNaN && (x.bits == y.bits || x.magnitude == 0 && y.magnitude == 0)

instance : BEq Binary64 := ⟨sameValue⟩

/-- The word of an integer, rounded to nearest. -/
def ofInt (n : Int) : Binary64 :=
  ofMagnitude (n < 0) (binary64.nearest n.natAbs 1)

/-- The value rounded to binary32.  A NaN keeps its sign and the high bits of
its payload and becomes quiet. -/
def toBinary32 (x : Binary64) : UInt32 :=
  let sign := if x.isNegative then binary32.signWeight else 0
  let magnitude :=
    if x.isNaN then
      binary32.infinity + 2 ^ (22 : Nat) + x.magnitude % 2 ^ (51 : Nat) / 2 ^ (29 : Nat)
    else if x.isInfinite then binary32.infinity
    else
      let value := binary64.value x.magnitude
      binary32.nearest (value.significand * 2 ^ value.exponent.toNat)
        (2 ^ (-value.exponent).toNat)
  UInt32.ofNat (sign + magnitude)

end Binary64

end ClauseTree.Numeral
