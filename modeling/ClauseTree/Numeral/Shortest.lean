import ClauseTree.Numeral.BinaryFloat

/-!
# Shortest decimals

The fewest decimal digits that read back to a given binary value.  The reals
that round to a magnitude form an interval around it, closed exactly when the
significand is even.  The search walks through finer and finer decimal grids
and stops at the first one with a point in that interval; of two such points
it takes the nearer one.
-/

namespace ClauseTree.Numeral

-- Powers are those of the core library, also where algebraic structures are in scope.
attribute [local instance (2000)] instPowNat

/-- The value `digits * 10 ^ exponent`. -/
structure Decimals where
  digits : Nat
  exponent : Int
deriving DecidableEq, Repr

/-- Which of two equally near decimals is taken. -/
inductive Tie where
  | upward
  | toEven
deriving DecidableEq, Repr

/-- Compare `digits * 10 ^ i` with `significand * 2 ^ j`. -/
def compareScaled (digits : Nat) (i : Int) (significand : Nat) (j : Int) : Ordering :=
  compare (digits * 10 ^ i.toNat * 2 ^ (-j).toNat)
    (significand * 2 ^ j.toNat * 10 ^ (-i).toNat)

/-- A positive magnitude as a value, with the half-way points to its two
neighbours counted in quarters of its last place. -/
structure Rounding where
  value : Dyadic
  below : Nat
  above : Nat

namespace Rounding

/-- Below a power of two the gap is half as wide, except where the exponent
can go no lower. -/
def ofMagnitude (format : FloatFormat) (magnitude : Nat) : Rounding :=
  let value := format.value magnitude
  let narrow :=
    value.significand = 2 ^ format.fractionBits ∧
      format.lowestExponent < value.exponent
  { value := value
    below := 4 * value.significand - if narrow then 1 else 2
    above := 4 * value.significand + 2 }

/-- Whether a decimal rounds to the value. -/
def admits (x : Rounding) (d : Decimals) : Bool :=
  let closed := x.value.significand % 2 = 0
  let low := compareScaled d.digits d.exponent x.below (x.value.exponent - 2)
  let high := compareScaled d.digits d.exponent x.above (x.value.exponent - 2)
  (low = .gt ∨ closed ∧ low = .eq) ∧ (high = .lt ∨ closed ∧ high = .eq)

/-- The least power of ten above the value. -/
def scale (x : Rounding) : Int :=
  let estimate : Int :=
    ((x.value.significand.log2 : Int) + x.value.exponent) * 30103 / 100000
  let candidates := (List.range 4).map fun i : Nat => estimate - 1 + i
  (candidates.find? fun k =>
    compareScaled 1 k x.value.significand x.value.exponent = .gt).getD (estimate + 3)

/-- The largest multiple of a grid that is at most the value. -/
def floorOnGrid (x : Rounding) (grid : Int) : Nat :=
  x.value.significand * 2 ^ x.value.exponent.toNat * 10 ^ (-grid).toNat /
    (2 ^ (-x.value.exponent).toNat * 10 ^ grid.toNat)

/-- The nearer of two neighbours on a grid. -/
def nearer (x : Rounding) (tie : Tie) (floor : Nat) (grid : Int) : Nat :=
  match compareScaled (2 * floor + 1) grid x.value.significand (x.value.exponent + 1) with
  | .gt => floor
  | .lt => floor + 1
  | .eq =>
      match tie with
      | .upward => floor + 1
      | .toEven => floor + floor % 2

/-- The point of a grid that reads back to the value, if there is one. -/
def onGrid? (x : Rounding) (tie : Tie) (grid : Int) : Option Decimals :=
  let floor := x.floorOnGrid grid
  match x.admits ⟨floor, grid⟩, x.admits ⟨floor + 1, grid⟩ with
  | true, true => some ⟨x.nearer tie floor grid, grid⟩
  | true, false => some ⟨floor, grid⟩
  | false, true => some ⟨floor + 1, grid⟩
  | false, false => none

/-- The value itself, written out. -/
def exact (x : Rounding) : Decimals :=
  if 0 ≤ x.value.exponent then ⟨x.value.significand * 2 ^ x.value.exponent.toNat, 0⟩
  else
    ⟨x.value.significand * 5 ^ (-x.value.exponent).toNat, x.value.exponent⟩

end Rounding

/-- Move the zeros at the end of the digits into the exponent. -/
def Decimals.strip (d : Decimals) : Decimals :=
  if d.digits ≠ 0 ∧ d.digits % 10 = 0 then strip ⟨d.digits / 10, d.exponent + 1⟩ else d
termination_by d.digits
decreasing_by exact Nat.div_lt_self (by omega) (by decide)

/-- The number of digits after which every binary64 value reads back. -/
def enoughDigits : Nat := 17

/-- The shortest decimal that reads back to a positive magnitude. -/
def shortest (format : FloatFormat) (tie : Tie) (magnitude : Nat) : Decimals :=
  let x := Rounding.ofMagnitude format magnitude
  let grids := (List.range enoughDigits).map fun i : Nat => x.scale - 1 - i
  ((grids.findSome? (x.onGrid? tie)).getD x.exact).strip

end ClauseTree.Numeral
