/-!
# Exact decimals

A whole number of units of a fixed decimal place, with a sign of its own.  The
scale and the sign of zero are part of the text but not of the value: `1.0` and
`1.00` are equal, and so are `0` and `-0`.
-/

namespace ClauseTree.Numeral

-- Powers are those of the core library, also where algebraic structures are in scope.
attribute [local instance (2000)] instPowNat

/-- The value `magnitude / 10 ^ scale`, or its opposite. -/
structure Decimal where
  /-- Whether a minus stands in front; zero has both signs. -/
  negative : Bool
  magnitude : Nat
  scale : Nat
deriving DecidableEq, Repr

namespace Decimal

/-- The number of units with its sign. -/
def mantissa (x : Decimal) : Int :=
  if x.negative then -x.magnitude else x.magnitude

/-- Equality of values, whatever the scales and the signs of zeros. -/
def sameValue (x y : Decimal) : Bool :=
  x.mantissa * 10 ^ y.scale == y.mantissa * 10 ^ x.scale

instance : BEq Decimal := ⟨sameValue⟩

/-- Fixed point with as many fractional digits as the scale says, and at least
one digit before the point. -/
def text (x : Decimal) : String :=
  let digits := (Nat.repr x.magnitude).toList
  let padded := List.replicate (x.scale + 1 - digits.length) '0' ++ digits
  let whole := padded.length - x.scale
  (if x.negative then "-" else "") ++ String.ofList (padded.take whole) ++
    if x.scale = 0 then "" else "." ++ String.ofList (padded.drop whole)

end Decimal

end ClauseTree.Numeral
