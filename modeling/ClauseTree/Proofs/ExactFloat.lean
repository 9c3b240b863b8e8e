import ClauseTree.Numeral.BinaryFloat

/-!
# Integers as floats

Binary64 keeps fifty-three binary digits, so it holds every integer up to `2 ^ 53` as it
is.  The number that a word stands for is read off its three fields here, as IEEE 754
defines it and apart from the arithmetic that makes the word.
-/

namespace ClauseTree.Numeral

-- Powers are those of the core library, also where algebraic structures are in scope.
attribute [local instance (2000)] instPowNat

/-- The number that a binary64 word stands for, from its sign bit, eleven bits of exponent
and fifty-two bits of fraction.  Infinities and NaNs stand for none.  Of the two powers
of two at a normal word one is always 1, as the subtractions stop at zero. -/
def Binary64.number? (word : Nat) : Option Rat :=
  let sign : Int := if word / 2 ^ (63 : Nat) % 2 = 1 then -1 else 1
  let exponent := word / 2 ^ (52 : Nat) % 2 ^ (11 : Nat)
  let fraction := word % 2 ^ (52 : Nat)
  if exponent = 2047 then none
  else if exponent = 0 then
    some (mkRat (sign * fraction) (2 ^ (52 : Nat) * 2 ^ (1022 : Nat)))
  else
    some (mkRat (sign * ((2 ^ (52 : Nat) + fraction) * 2 ^ (exponent - 1023) : Nat))
      (2 ^ (52 : Nat) * 2 ^ (1023 - exponent)))

/-! ### Rounding what needs none -/

private theorem roundHalfEven_mul {denominator : Nat} (positive : 0 < denominator)
    (quotient : Nat) : roundHalfEven (denominator * quotient) denominator = quotient := by
  have exact : denominator * quotient % denominator = 0 := Nat.mul_mod_right _ _
  have divided : denominator * quotient / denominator = quotient :=
    Nat.mul_div_cancel_left _ positive
  unfold roundHalfEven
  simp only [exact, divided]
  split
  · omega
  · rfl

private theorem FloatFormat.floorLog2_one {n : Nat} (nonzero : n ≠ 0) :
    floorLog2 n 1 = n.log2 := by
  have unit : Nat.log2 1 = 0 := by decide
  have low : 2 ^ n.log2 ≤ n := Nat.log2_self_le nonzero
  simp [floorLog2, unit, low]

/-- The fifty-three digits of an integer that binary64 holds, with zeros behind the
integer's own digits, and one digit less where it has fifty-four. -/
theorem exists_significand {n : Nat} (nonzero : n ≠ 0) (small : n ≤ 2 ^ (53 : Nat)) :
    ∃ significand, 2 ^ (52 : Nat) ≤ significand ∧ significand < 2 ^ (53 : Nat) ∧
      n * 2 ^ (52 - n.log2) = 2 ^ (n.log2 - 52) * significand ∧
      significand * 2 ^ n.log2 = n * 2 ^ (52 : Nat) := by
  have low : 2 ^ n.log2 ≤ n := Nat.log2_self_le nonzero
  have high : n < 2 ^ (n.log2 + 1) := Nat.lt_log2_self
  rcases Nat.lt_or_ge n.log2 53 with inside | outside
  · have noShift : n.log2 - 52 = 0 := by omega
    have power : 2 ^ n.log2 * 2 ^ (52 - n.log2) = 2 ^ (52 : Nat) := by
      rw [← Nat.pow_add]
      congr 1
      omega
    have atLeast := Nat.mul_le_mul_right (2 ^ (52 - n.log2)) low
    have below := Nat.mul_lt_mul_of_pos_right high (Nat.two_pow_pos (52 - n.log2))
    rw [Nat.pow_succ, Nat.mul_right_comm, power] at below
    rw [power] at atLeast
    refine ⟨n * 2 ^ (52 - n.log2), atLeast, by omega, by simp [noShift], ?_⟩
    rw [Nat.mul_assoc, Nat.mul_comm (2 ^ (52 - n.log2)), power]
  · have power : 2 ^ (53 : Nat) ≤ 2 ^ n.log2 := Nat.pow_le_pow_right (by decide) outside
    have limit : n = 2 ^ (53 : Nat) := by omega
    subst limit
    rw [Nat.log2_two_pow]
    exact ⟨2 ^ (52 : Nat), by decide⟩

/-- The magnitude of an integer that binary64 holds: the exponent tells the place of its
leading digit, and the fraction has the digits behind that one. -/
theorem FloatFormat.nearest_integer {n : Nat} (nonzero : n ≠ 0)
    (small : n ≤ 2 ^ (53 : Nat)) :
    ∃ fraction, fraction < 2 ^ (52 : Nat) ∧
      (2 ^ (52 : Nat) + fraction) * 2 ^ n.log2 = n * 2 ^ (52 : Nat) ∧
      binary64.nearest n 1 = (n.log2 + 1023) * 2 ^ (52 : Nat) + fraction := by
  obtain ⟨significand, atLeast, below, exact, value⟩ := exists_significand nonzero small
  refine ⟨significand - 2 ^ (52 : Nat), by omega, ?_, ?_⟩
  · rwa [Nat.add_sub_cancel' atLeast]
  · have lowest : binary64.lowestExponent = -1074 := by decide
    have infinity : binary64.infinity = 2047 * 2 ^ (52 : Nat) := by decide
    have bits : binary64.fractionBits = 52 := by decide
    have normal : max (-1074) ((n.log2 : Int) - (52 : Nat)) = (n.log2 : Int) - 52 := by omega
    have up : (-((n.log2 : Int) - 52)).toNat = 52 - n.log2 := by omega
    have down : ((n.log2 : Int) - 52).toNat = n.log2 - 52 := by omega
    have place : ((n.log2 : Int) - 52 - -1074).toNat = n.log2 + 1022 := by omega
    have size : n.log2 < 54 := by
      rw [Nat.log2_lt nonzero]
      omega
    have rounded := roundHalfEven_mul (Nat.two_pow_pos (n.log2 - 52)) significand
    unfold nearest
    simp only [nonzero, if_false, lowest, infinity, bits, floorLog2_one nonzero, normal, up,
      down, place, Nat.one_mul, exact, rounded]
    have finite : (n.log2 + 1022) * 2 ^ (52 : Nat) + significand ≤ 2047 * 2 ^ (52 : Nat) := by
      omega
    rw [Nat.min_eq_right finite]
    omega

/-! ### The word of an integer -/

private theorem Binary64.toNat_ofMagnitude (negative : Bool) (magnitude : Nat)
    (finite : magnitude < 2 ^ (63 : Nat)) :
    (ofMagnitude negative magnitude).bits.toNat =
      negative.toNat * 2 ^ (63 : Nat) + magnitude := by
  have weight : binary64.signWeight = 2 ^ (63 : Nat) := by decide
  cases negative with
  | false =>
      simp only [ofMagnitude, UInt64.toNat_ofNat', Bool.false_eq_true, if_false,
        Bool.toNat_false]
      omega
  | true =>
      simp only [ofMagnitude, UInt64.toNat_ofNat', if_true, weight, Bool.toNat_true]
      omega

/-- The fields of a word can be read back. -/
theorem Binary64.number?_fields (negative : Bool) (exponent fraction : Nat)
    (normal : exponent ≠ 0) (finite : exponent < 2047) (inside : fraction < 2 ^ (52 : Nat)) :
    number? (negative.toNat * 2 ^ (63 : Nat) + (exponent * 2 ^ (52 : Nat) + fraction)) =
      some (mkRat
        ((if negative then -1 else 1) *
          ((2 ^ (52 : Nat) + fraction) * 2 ^ (exponent - 1023) : Nat))
        (2 ^ (52 : Nat) * 2 ^ (1023 - exponent))) := by
  have bit := negative.toNat_le
  generalize wordEq :
    negative.toNat * 2 ^ (63 : Nat) + (exponent * 2 ^ (52 : Nat) + fraction) = word
  have signField : word / 2 ^ (63 : Nat) % 2 = negative.toNat := by omega
  have exponentField : word / 2 ^ (52 : Nat) % 2 ^ (11 : Nat) = exponent := by omega
  have fractionField : word % 2 ^ (52 : Nat) = fraction := by omega
  unfold number?
  simp only [signField, exponentField, fractionField, normal, Nat.ne_of_lt finite, if_false]
  cases negative <;> rfl

/-- Up to `2 ^ 53` the word of an integer stands for that integer, whatever its sign. -/
theorem Binary64.number?_ofInt {n : Int} (small : n.natAbs ≤ 2 ^ (53 : Nat)) :
    number? (ofInt n).bits.toNat = some (n : Rat) := by
  by_cases zero : n = 0
  · have noWord : (ofInt 0).bits.toNat = 0 := by decide
    subst zero
    rw [noWord]
    simp only [number?, Nat.zero_div, Nat.zero_mod, Nat.zero_ne_one, if_false, if_true,
      Int.natCast_zero, Int.mul_zero, Rat.zero_mkRat, Rat.intCast_zero]
    decide
  · have nonzero : n.natAbs ≠ 0 := by omega
    obtain ⟨fraction, inside, value, nearestEq⟩ :=
      FloatFormat.nearest_integer nonzero small
    have place : n.natAbs.log2 < 54 := by
      rw [Nat.log2_lt nonzero]
      omega
    have word := toNat_ofMagnitude (decide (n < 0)) (binary64.nearest n.natAbs 1) (by omega)
    rw [nearestEq] at word
    have read := number?_fields (decide (n < 0)) (n.natAbs.log2 + 1023) fraction
      (by omega) (by omega) inside
    have noShift : 1023 - (n.natAbs.log2 + 1023) = 0 :=
      Nat.sub_eq_zero_of_le (Nat.le_add_left _ _)
    rw [Nat.add_sub_cancel, noShift, value] at read
    rw [ofInt, nearestEq, word, read, Option.some.injEq, Nat.pow_zero, Nat.mul_one,
      ← Rat.mkRat_one, Rat.mkRat_eq_iff (by decide) (by decide)]
    rcases Int.lt_or_le n 0 with negative | positive
    · simp only [negative, decide_true, if_true]
      omega
    · simp only [Int.not_lt.mpr positive, decide_false, Bool.false_eq_true, if_false]
      omega

end ClauseTree.Numeral
