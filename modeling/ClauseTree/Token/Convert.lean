import ClauseTree.Numeral.FloatLayout
import ClauseTree.Token.Make

/-!
# Conversions

What may be given in the place of a token.  Where a piece of SQL is expected, a
text is raw and a number is written out.  Where an operand is expected, both are
values that prepared text binds, and only a token stays what it is.
-/

namespace ClauseTree

open Numeral

/-- What can be given as a value. -/
class ToValue (α : Type) where
  toValue : α → Value

/-- The values that can be given as pieces of SQL too: numbers and truth values, and
values as such. -/
class ToLiteral (α : Type) extends ToValue α

/-- What can be given where a piece of SQL is expected. -/
class ToToken (α : Type) where
  toToken : α → Token

/-- What can be given where an operand is expected. -/
class ToOperand (α : Type) where
  toOperand : α → Token

export ToValue (toValue)
export ToToken (toToken)
export ToOperand (toOperand)

/-! ### Values -/

instance : ToLiteral Value where toValue := id
instance : ToLiteral Bool where toValue := .bool
instance : ToLiteral Int64 where toValue := .int
instance : ToLiteral Int32 where toValue := fun n => .int n.toInt64
instance : ToLiteral Int16 where toValue := fun n => .int n.toInt64
instance : ToLiteral Int8 where toValue := fun n => .int n.toInt64
instance : ToLiteral UInt32 where toValue := fun n => .int n.toUInt64.toInt64
instance : ToLiteral UInt16 where toValue := fun n => .int n.toUInt64.toInt64
instance : ToLiteral UInt8 where toValue := fun n => .int n.toUInt64.toInt64
instance : ToLiteral Binary64 where toValue := .float
instance : ToValue Decimal where toValue := .decimal
instance : ToValue String where toValue := .text
instance : ToValue (List UInt8) where toValue := .bytes
instance : ToValue Date where toValue := .date
instance : ToValue Time where toValue := .time
-- A timestamp with a zone is one in UTC, and `Value.timestampTz` makes it.
instance : ToValue Timestamp where toValue := .timestamp
instance : ToValue Uuid where toValue := .uuid
instance : ToValue Json where toValue := .json

/-- Nothing is null. -/
instance {α : Type} [ToValue α] : ToValue (Option α) where
  toValue value := (value.map toValue).getD .null

/-- The float with the shortest decimal text of a binary32 word. -/
def Value.ofBinary32 (word : UInt32) : Value :=
  .float (Binary64.ofBinary32 word)

/-! ### Pieces of SQL -/

instance : ToToken Token where toToken := id
instance : ToToken String where toToken := .name
instance : ToToken Operator where toToken := .ofOperator
instance {α : Type} [ToLiteral α] : ToToken α where toToken value := .number (toValue value)

/-! ### Operands -/

instance : ToOperand Token where toOperand := id
instance {α : Type} [ToValue α] : ToOperand α where toOperand value := .constant (toValue value)

/-- Nothing is a bound null. -/
instance {α : Type} [ToOperand α] : ToOperand (Option α) where
  toOperand operand := (operand.map toOperand).getD (.constant .null)

/-- An optional value is one operand, whether it is taken as a value or as an operand that
may be missing. -/
theorem toOperand_option {α : Type} [ToValue α] (value : Option α) :
    toOperand value = Token.constant (toValue value) := by
  cases value <;> rfl

/-- A literal that is prepared is the operand of the same value. -/
theorem Token.prepared_toToken {α : Type} [ToLiteral α] (value : α) :
    (toToken value).prepared = toOperand value := rfl

end ClauseTree
