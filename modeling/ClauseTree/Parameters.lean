import ClauseTree.Token.Equality
import ClauseTree.Token.Make

/-!
# Parameters

The values that a prepared text leaves out.  Each of them is bound to a
position, counted from one, and a placeholder stands in its place.
-/

namespace ClauseTree

/-- How the placeholder of a bound value is written. -/
inductive Placeholder where
  /-- `?` for every value. -/
  | question
  /-- `$1`, `$2` and so on. -/
  | dollar
deriving DecidableEq, Repr, Inhabited

/-- The placeholder of a position. -/
def Placeholder.text (style : Placeholder) (position : Nat) : String :=
  match style with
  | .question => "?"
  | .dollar => "$" ++ toString position

/-- The bound tokens of a prepared text, in the order of their positions. -/
structure Parameters where
  tokens : List Token
deriving Inhabited

namespace Parameters

def empty : Parameters := ⟨[]⟩

def size (parameters : Parameters) : Nat :=
  parameters.tokens.length

/-- Bind a token to the next position, counted from one. -/
def push (parameters : Parameters) (token : Token) : Nat × Parameters :=
  (parameters.size + 1, ⟨parameters.tokens ++ [token]⟩)

/-- The token at a position; there is none at position zero. -/
def get? (parameters : Parameters) : Nat → Option Token
  | 0 => none
  | position + 1 => parameters.tokens[position]?

/-- The value at a position. -/
def value? (parameters : Parameters) (position : Nat) : Option Value :=
  (parameters.get? position).bind Token.value?

/-- The values to send, in order.  A token without a value is sent as null. -/
def values (parameters : Parameters) : List Value :=
  parameters.tokens.map fun token => token.value?.getD .null

/-- The tokens with their positions. -/
def toList (parameters : Parameters) : List (Nat × Token) :=
  parameters.tokens.zipIdx.map fun entry => (entry.2 + 1, entry.1)

instance : BEq Parameters := ⟨fun a b => sameTokens a.tokens b.tokens⟩

/-- There is a token at the positions from one to the number of tokens. -/
theorem get?_isSome_iff (parameters : Parameters) (position : Nat) :
    (parameters.get? position).isSome ↔ 1 ≤ position ∧ position ≤ parameters.size := by
  cases position with
  | zero => simp [get?]
  | succ n =>
      simp only [get?, size, isSome_getElem?]
      omega

end Parameters

end ClauseTree
