import ClauseTree.Proofs.ExactFloat
import ClauseTree.Wire

/-!
# Bound integers

An integer that is bound to a parameter arrives as that integer or not at all.  The bytes
that are written for it are read back here by the rules of the types: two's complement,
the highest byte first, or a binary64 word.  A value that is refused leaves no byte
behind.
-/

namespace ClauseTree

open Numeral

-- Powers are those of the core library, also where algebraic structures are in scope.
attribute [local instance (2000)] instPowNat

/-! ### Reading bytes -/

namespace Wire

/-- The number that bytes write, the highest of them first. -/
def unsigned : List UInt8 → Nat
  | [] => 0
  | byte :: rest => byte.toNat * 256 ^ rest.length + unsigned rest

/-- The number that bytes write in two's complement: the upper half of the numbers of
their length counts back from zero. -/
def twosComplement (bytes : List UInt8) : Int :=
  if 2 * unsigned bytes < 256 ^ bytes.length then unsigned bytes
  else (unsigned bytes : Int) - (256 ^ bytes.length : Nat)

private theorem length_bigEndian (width n : Nat) : (bigEndian width n).length = width := by
  induction width with
  | zero => rfl
  | succ width ih => rw [bigEndian, List.length_cons, ih]

private theorem unsigned_bigEndian (width n : Nat) :
    unsigned (bigEndian width n) = n % 256 ^ width := by
  induction width with
  | zero => simp [bigEndian, unsigned, Nat.mod_one]
  | succ width ih =>
      have digit : (UInt8.ofNat (n / 256 ^ width)).toNat = n / 256 ^ width % 256 :=
        UInt8.toNat_ofNat'
      rw [bigEndian, unsigned, ih, length_bigEndian, digit, Nat.mod_pow_succ, Nat.add_comm,
        Nat.mul_comm]

/-- What two's complement of a width holds is read back from it. -/
theorem twosComplement_signed (width : Nat) (n : Int)
    (low : -(256 ^ width : Nat) ≤ 2 * n) (high : 2 * n < (256 ^ width : Nat)) :
    twosComplement (signed width n) = n := by
  have positive : 0 < 256 ^ width := Nat.pow_pos (by decide)
  unfold twosComplement signed
  rw [unsigned_bigEndian, length_bigEndian]
  generalize 256 ^ width = modulus at *
  have inside : (n % (modulus : Int)).toNat % modulus = (n % (modulus : Int)).toNat := by
    have below := Int.emod_lt_of_pos n (show (0 : Int) < modulus by omega)
    exact Nat.mod_eq_of_lt (by omega)
  rw [inside]
  rcases Int.lt_or_le n 0 with negative | positive
  · have residue : n % (modulus : Int) = n + modulus := by
      rw [← Int.add_emod_right]
      exact Int.emod_eq_of_lt (by omega) (by omega)
    rw [residue]
    split <;> omega
  · have residue : n % (modulus : Int) = n := Int.emod_eq_of_lt positive (by omega)
    rw [residue]
    split <;> omega

end Wire

/-- The number that bytes stand for in the types that integers are written for.  Bytes of
another length stand for none. -/
def PgType.number? (type : PgType) (bytes : List UInt8) : Option Rat :=
  match type, bytes.length with
  | .int2, 2 => some (Wire.twosComplement bytes)
  | .int4, 4 => some (Wire.twosComplement bytes)
  | .int8, 8 => some (Wire.twosComplement bytes)
  | .float8, 8 => Binary64.number? (Wire.unsigned bytes)
  | _, _ => none

/-- Whether a type holds a 64-bit integer as it is. -/
def PgType.Holds (n : Int64) : PgType → Prop
  | .int2 => -32768 ≤ n.toInt ∧ n.toInt ≤ 32767
  | .int4 => -2147483648 ≤ n.toInt ∧ n.toInt ≤ 2147483647
  | .int8 => True
  | .float8 => n.toInt.natAbs ≤ 9007199254740992
  | _ => False

/-! ### Writing integers -/

namespace Wire

/-- An integer is written after its range is checked, so nothing is written of one that
is refused. -/
theorem narrow_append (width : Nat) (n : Int64) :
    (do append (signed width (← narrow width n))) =
      if -(2 ^ (8 * width - 1) : Nat) ≤ n.toInt ∧ n.toInt < (2 ^ (8 * width - 1) : Nat)
      then append (signed width n.toInt) else throw .outOfRange := by
  unfold narrow
  dsimp only
  split <;> rfl

private theorem writeChecked_cases (value : Value) (type : PgType) :
    (∃ bytes, writeChecked value type = append bytes) ∨
      ∃ error, writeChecked value type = throw error := by
  unfold writeChecked
  split
  · exact .inl ⟨_, rfl⟩
  · exact .inr ⟨_, rfl⟩

private theorem writeInt_cases (n : Int64) (type : PgType) :
    (∃ bytes, writeInt n type = append bytes) ∨ ∃ error, writeInt n type = throw error := by
  unfold writeInt
  split
  · rw [narrow_append]
    split
    · exact .inl ⟨_, rfl⟩
    · exact .inr ⟨_, rfl⟩
  · rw [narrow_append]
    split
    · exact .inl ⟨_, rfl⟩
    · exact .inr ⟨_, rfl⟩
  · split
    · exact .inr ⟨_, rfl⟩
    · exact .inl ⟨_, rfl⟩
  · exact writeChecked_cases _ _

/-- Every value is sent as null, or as some bytes, or refused, and what the buffer holds
has no part in it. -/
theorem write_cases (value : Value) (type : PgType) :
    write value type = pure .null ∨ (∃ bytes, write value type = append bytes) ∨
      ∃ error, write value type = throw error := by
  unfold write
  split
  · exact .inl rfl
  · exact .inr (writeInt_cases _ _)
  · exact .inr (.inl ⟨_, rfl⟩)
  · exact .inr (writeChecked_cases _ _)

/-- A value that is refused leaves the buffer as it was. -/
theorem buffer_eq_of_refused {value : Value} {type : PgType} {buffer after : List UInt8}
    {error : EncodeError} (refused : (write value type).run buffer = .error error after) :
    after = buffer := by
  rcases write_cases value type with null | ⟨bytes, appended⟩ | ⟨other, thrown⟩
  · rw [null] at refused
    cases refused
  · rw [appended] at refused
    cases refused
  · rw [thrown] at refused
    cases refused
    rfl

private theorem length_signed (width : Nat) (n : Int) : (signed width n).length = width :=
  length_bigEndian _ _

/-- Where a type holds an integer, the bytes that are written for it stand for it. -/
theorem write_of_holds {n : Int64} {type : PgType} (holds : type.Holds n) :
    ∃ bytes, type.number? bytes = some (n.toInt : Rat) ∧
      write (.int n) type = append bytes := by
  have low := n.le_toInt
  have high := n.toInt_lt
  cases type with
  | int2 =>
      obtain ⟨least, most⟩ := holds
      have fits : -(2 ^ (8 * 2 - 1) : Nat) ≤ n.toInt ∧ n.toInt < (2 ^ (8 * 2 - 1) : Nat) := by
        omega
      have value := twosComplement_signed 2 n.toInt (by omega) (by omega)
      refine ⟨signed 2 n.toInt, by simp [PgType.number?, length_signed, value], ?_⟩
      rw [write, writeInt, narrow_append, if_pos fits]
  | int4 =>
      obtain ⟨least, most⟩ := holds
      have fits : -(2 ^ (8 * 4 - 1) : Nat) ≤ n.toInt ∧ n.toInt < (2 ^ (8 * 4 - 1) : Nat) := by
        omega
      have value := twosComplement_signed 4 n.toInt (by omega) (by omega)
      refine ⟨signed 4 n.toInt, by simp [PgType.number?, length_signed, value], ?_⟩
      rw [write, writeInt, narrow_append, if_pos fits]
  | int8 =>
      have value := twosComplement_signed 8 n.toInt (by omega) (by omega)
      exact ⟨signed 8 n.toInt, by simp [PgType.number?, length_signed, value], rfl⟩
  | float8 =>
      have small : ¬ exactLimit < n.toInt.natAbs := Nat.not_lt.mpr holds
      have value := Binary64.number?_ofInt (Nat.le_of_not_lt small)
      -- Within the limit every integer is a float by itself, so its word stands for it.
      let word := (Binary64.ofInt n.toInt).bits.toNat
      have whole : unsigned (bigEndian 8 word) = word := by
        rw [unsigned_bigEndian]
        exact Nat.mod_eq_of_lt (Binary64.ofInt n.toInt).bits.toNat_lt
      refine ⟨bigEndian 8 word, by simp [PgType.number?, length_bigEndian, whole, word, value], ?_⟩
      rw [write, writeInt, if_neg small]
  | _ => cases holds

/-- Every other integer, and every other type, is refused. -/
theorem write_of_not_holds {n : Int64} {type : PgType} (holdsNot : ¬ type.Holds n) :
    ∃ error, write (.int n) type = throw error := by
  cases type with
  | int2 =>
      have tooFar : ¬ (-(2 ^ (8 * 2 - 1) : Nat) ≤ n.toInt ∧
          n.toInt < (2 ^ (8 * 2 - 1) : Nat)) := by
        rintro ⟨least, most⟩
        exact holdsNot ⟨by omega, by omega⟩
      exact ⟨.outOfRange, by rw [write, writeInt, narrow_append, if_neg tooFar]⟩
  | int4 =>
      have tooFar : ¬ (-(2 ^ (8 * 4 - 1) : Nat) ≤ n.toInt ∧
          n.toInt < (2 ^ (8 * 4 - 1) : Nat)) := by
        rintro ⟨least, most⟩
        exact holdsNot ⟨by omega, by omega⟩
      exact ⟨.outOfRange, by rw [write, writeInt, narrow_append, if_neg tooFar]⟩
  | int8 => exact absurd trivial holdsNot
  | float8 =>
      have large : exactLimit < n.toInt.natAbs := Nat.lt_of_not_le holdsNot
      exact ⟨.inexact n, by rw [write, writeInt, if_pos large]⟩
  | _ => exact ⟨.wrongType, rfl⟩

/-- A 64-bit integer is written for a type exactly if the type holds it: the integer types
of two and four bytes in their ranges, that of eight bytes always, binary64 up to
`2 ^ 53` on either side of zero, and no other type.  Then the bytes behind the buffer
stand for the integer, and otherwise the buffer stays as it was. -/
theorem write_int_exact (n : Int64) (type : PgType) (buffer : List UInt8) :
    (type.Holds n → ∃ bytes, type.number? bytes = some (n.toInt : Rat) ∧
        (write (.int n) type).run buffer = .ok .bytes (buffer ++ bytes)) ∧
      (¬ type.Holds n →
        ∃ error after, (write (.int n) type).run buffer = .error error after) ∧
      ∀ error after, (write (.int n) type).run buffer = .error error after →
        after = buffer := by
  refine ⟨?_, ?_, ?_⟩
  · intro holds
    obtain ⟨bytes, value, written⟩ := write_of_holds holds
    exact ⟨bytes, value, by rw [written, run_append]⟩
  · intro holdsNot
    obtain ⟨error, thrown⟩ := write_of_not_holds holdsNot
    exact ⟨error, buffer, by rw [thrown]; rfl⟩
  · intro error after refused
    exact buffer_eq_of_refused refused

end Wire

end ClauseTree
