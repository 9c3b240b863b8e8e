import ClauseTree.Calendar
import ClauseTree.Json.Printer
import ClauseTree.Numeral.Decimal
import ClauseTree.Text.Quoted

/-!
# Values

The typed scalars of a statement and their SQL literals.  Numbers and truth
values are written bare; everything else is a quoted text.
-/

namespace ClauseTree

open Numeral

/-- The sixteen bytes of a universally unique identifier. -/
structure Uuid where
  bytes : Vector UInt8 16
deriving DecidableEq, Repr

/-- Lower-case digits in groups of eight, four, four, four and twelve. -/
def Uuid.text (uuid : Uuid) : String :=
  let digits := uuid.bytes.toList.flatMap Text.hexByte
  let group (start count : Nat) := String.ofList ((digits.drop start).take count)
  group 0 8 ++ "-" ++ group 8 4 ++ "-" ++ group 12 4 ++ "-" ++ group 16 4 ++ "-" ++
    group 20 12

/-- A typed scalar. -/
inductive Value where
  | null
  | bool (value : Bool)
  | int (value : Int64)
  | float (value : Binary64)
  | decimal (value : Decimal)
  | text (value : String)
  | bytes (value : List UInt8)
  | date (value : Date)
  | time (value : Time)
  | timestamp (value : Timestamp)
  | timestampTz (value : Timestamp)
  | uuid (value : Uuid)
  | json (value : Json)
deriving Repr, Inhabited

namespace Value

/-- Floats stand positionally from `0.0001` and below `10 ^ 16`; of two equally
near decimals the upper one is written. -/
def floatLayout : FloatLayout :=
  { plainFrom := -4, plainBelow := 16, exponentPlus := false, tie := .upward }

/-- A finite float is a bare number; the others are quoted names. -/
def floatText (x : Binary64) : String :=
  if x.isNaN then "'NaN'"
  else if x.isInfinite then if x.isNegative then "'-Infinity'" else "'Infinity'"
  else floatLayout.text x

/-- The SQL literal of a value. -/
def sql : Value → String
  | .null => "NULL"
  | .bool true => "true"
  | .bool false => "false"
  | .int n => toString n.toInt
  | .float x => floatText x
  | .decimal x => x.text
  | .text s => Text.literal s
  | .bytes bs => "'\\x" ++ Text.hex bs ++ "'"
  | .date d => Text.literal d.text
  | .time t => Text.literal t.text
  | .timestamp t => Text.literal t.text
  | .timestampTz t => Text.literal t.zonedText
  | .uuid u => Text.literal u.text
  | .json j => Text.literal j.text

def isNull : Value → Bool
  | .null => true
  | _ => false

/-- The text of a text value. -/
def text? : Value → Option String
  | .text s => some s
  | _ => none

/-- Equality of values of one class.  Floats are compared as numbers, so a NaN
differs from itself; decimals are equal when their values are; JSON is compared
by content. -/
def same : Value → Value → Bool
  | .null, .null => true
  | .bool a, .bool b => a == b
  | .int a, .int b => a == b
  | .float a, .float b => a == b
  | .decimal a, .decimal b => a == b
  | .text a, .text b => a == b
  | .bytes a, .bytes b => a == b
  | .date a, .date b => a == b
  | .time a, .time b => a == b
  | .timestamp a, .timestamp b => a == b
  | .timestampTz a, .timestampTz b => a == b
  | .uuid a, .uuid b => a == b
  | .json a, .json b => a == b
  | _, _ => false

instance : BEq Value := ⟨same⟩

end Value

end ClauseTree
