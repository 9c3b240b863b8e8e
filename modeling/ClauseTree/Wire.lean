import ClauseTree.Value

/-!
# Binary parameters

The bytes that a value becomes when it is bound to a parameter of a PostgreSQL
type.  They are appended to a buffer, behind what it holds already.  A value
fits the types that its class is encoded for, and null fits every type.  An
integer is never rounded: where its type is too narrow or inexact, it is
refused.
-/

namespace ClauseTree

open Numeral

/-- The parameter types that a value can meet. -/
inductive PgType where
  | bool | char | int2 | int4 | int8 | oid | float4 | float8 | numeric
  | text | varchar | bpchar | name | unknown | bytea
  | date | time | timetz | timestamp | timestamptz
  | uuid | json | jsonb | int8Array
  /-- Any other type, of the server or of an extension, by name and number. -/
  | other (name : String) (number : UInt32)
deriving DecidableEq, Repr

/-- Why a value is not encoded. -/
inductive EncodeError where
  /-- The class of the value does not go with the type. -/
  | wrongType
  /-- An integer outside the range of a narrow integer type. -/
  | outOfRange
  /-- An integer that binary64 would round. -/
  | inexact (value : Int64)
deriving DecidableEq, Repr

/-- The wording of each error. -/
def EncodeError.message : EncodeError → String
  | .wrongType => "the type does not take the value"
  | .outOfRange => "out of range integral type conversion attempted"
  | .inexact n => toString n.toInt ++ " is not exactly representable as float8"

/-- What a parameter is sent as. -/
inductive Sent where
  /-- Null, for which nothing is written. -/
  | null
  /-- The bytes that were appended. -/
  | bytes
deriving DecidableEq, Repr

namespace Wire

/-- An operation that appends to a buffer of bytes, or refuses and tells why. -/
abbrev Appending : Type → Type :=
  EStateM EncodeError (List UInt8)

def append (bytes : List UInt8) : Appending Sent := do
  modify (· ++ bytes)
  pure .bytes

-- Powers are those of the core library, also where algebraic structures are in scope.
attribute [local instance (2000)] instPowNat

/-- The lowest `width` bytes of a number, the highest of them first. -/
def bigEndian : Nat → Nat → List UInt8
  | 0, _ => []
  | width + 1, n => UInt8.ofNat (n / 256 ^ width) :: bigEndian width n

/-- An integer in two's complement. -/
def signed (width : Nat) (n : Int) : List UInt8 :=
  bigEndian width (n % (256 ^ width : Nat)).toNat

/-- Every integer up to this magnitude is a binary64 value. -/
def exactLimit : Nat := 2 ^ (53 : Nat)

/-- The base-10000 digits of a number, the lowest first. -/
def myriads (n : Nat) : List Nat :=
  if n = 0 then [] else n % 10000 :: myriads (n / 10000)
termination_by n
decreasing_by exact Nat.div_lt_self (by omega) (by decide)

/-- A decimal as base-10000 digits around the point: their number, the weight
of the first, the sign, the scale, and the digits.  Zeros at the end are left
out behind the point, and only where a digit stands before it. -/
def encodeDecimal (x : Decimal) : List UInt8 :=
  if x.magnitude = 0 then List.replicate 8 0
  else
    let padding := (4 - x.scale % 4) % 4
    let digits := (myriads (x.magnitude * 10 ^ padding)).reverse
    let fractional := (x.scale + 3) / 4
    let weight : Int := (digits.length : Int) - fractional - 1
    let kept :=
      if 0 ≤ weight then
        let whole := digits.length - fractional
        let fraction := (digits.drop whole).reverse.dropWhile (· == 0) |>.reverse
        digits.take whole ++ fraction
      else digits
    bigEndian 2 kept.length ++ signed 2 weight ++
      bigEndian 2 (if x.negative then 0x4000 else 0) ++ bigEndian 2 x.scale ++
      kept.flatMap (bigEndian 2)

/-- The bytes of a text. -/
def utf8 (s : String) : List UInt8 :=
  s.toUTF8.toList

/-- What stands in front of a text in the types of extensions that take texts: a
version, or nothing. -/
def extensionHead? : String → Option (List UInt8)
  | "citext" => some []
  | "ltree" => some [1]
  | "lquery" => some [1]
  | "ltxtquery" => some [1]
  | _ => none

/-- The bytes of a value in the types that its class goes with. -/
def bytes? : Value → PgType → Option (List UInt8)
  | .bool b, .bool => some [if b then 1 else 0]
  | .int n, .int8 => some (signed 8 n.toInt)
  | .float x, .float8 => some (bigEndian 8 x.bits.toNat)
  | .decimal x, .numeric => some (encodeDecimal x)
  | .text s, .text => some (utf8 s)
  | .text s, .varchar => some (utf8 s)
  | .text s, .bpchar => some (utf8 s)
  | .text s, .name => some (utf8 s)
  | .text s, .unknown => some (utf8 s)
  | .text s, .other name _ => (extensionHead? name).map (· ++ utf8 s)
  | .bytes bs, .bytea => some bs
  | .date d, .date => some (signed 4 d.daysSinceEpoch)
  | .time t, .time => some (bigEndian 8 t.microsSinceMidnight)
  | .timestamp t, .timestamp => some (signed 8 t.microsSinceEpoch)
  | .timestampTz t, .timestamptz => some (signed 8 t.microsSinceEpoch)
  | .uuid u, .uuid => some u.bytes.toList
  | .json j, .json => some (utf8 j.text)
  | .json j, .jsonb => some (1 :: utf8 j.text)
  | _, _ => none

/-- Append a value in a type that its class goes with, and refuse any other type. -/
def writeChecked (value : Value) (type : PgType) : Appending Sent :=
  match bytes? value type with
  | some bytes => append bytes
  | none => throw .wrongType

/-- An integer that two's complement of a width holds; any other is refused. -/
def narrow (width : Nat) (n : Int64) : Appending Int :=
  let reach : Nat := 2 ^ (8 * width - 1)
  if -(reach : Int) ≤ n.toInt ∧ n.toInt < reach then pure n.toInt else throw .outOfRange

/-- Integers go into narrower integer types that hold them as well, and into
binary64 where that is exact. -/
def writeInt (n : Int64) : PgType → Appending Sent
  | .int2 => do append (signed 2 (← narrow 2 n))
  | .int4 => do append (signed 4 (← narrow 4 n))
  | .float8 =>
      if exactLimit < n.toInt.natAbs then throw (.inexact n)
      else append (bigEndian 8 (Binary64.ofInt n.toInt).bits.toNat)
  | type => writeChecked (.int n) type

/-- Append a value to a buffer in the form of a type.  Floats are rounded where
the type is narrower. -/
def write : Value → PgType → Appending Sent
  | .null, _ => pure .null
  | .int n, type => writeInt n type
  | .float x, .float4 => append (bigEndian 4 x.toBinary32.toNat)
  | value, type => writeChecked value type

/-- What is written for a value alone: nothing for null, or the bytes of the type. -/
def encode (value : Value) (type : PgType) : Except EncodeError (Option (List UInt8)) :=
  match (write value type).run [] with
  | .ok .null _ => .ok none
  | .ok .bytes bytes => .ok (some bytes)
  | .error error _ => .error error

@[simp] theorem run_append (bytes buffer : List UInt8) :
    (append bytes).run buffer = .ok .bytes (buffer ++ bytes) := rfl

end Wire

end ClauseTree
