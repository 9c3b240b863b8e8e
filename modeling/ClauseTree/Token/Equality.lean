import ClauseTree.Token.Basic

/-!
# Equality of tokens and trees

Two tokens are equal when they are written alike, with the equality of values
at the constants, so a token that holds a NaN differs from itself.  Two trees
are equal when they hold the same nodes and the same nodes are open.
-/

namespace ClauseTree

mutual

/-- Equality of tokens, cast and alias included. -/
def Token.same : Token → Token → Bool
  | ⟨kind, castType, outputName⟩, ⟨kind', castType', outputName'⟩ =>
      kind.same kind' && castType == castType' && outputName == outputName'

/-- Equality of two tokens of one kind. -/
def TokenKind.same : TokenKind → TokenKind → Bool
  | .name a, .name b => a == b
  | .quotedName a, .quotedName b => a == b
  | .constant v p, .constant w q => v == w && p == q
  | .dollarString a s, .dollarString b t => a == b && s == t
  | .array xs, .array ys => sameTokens xs ys
  | .list xs, .list ys => sameTokens xs ys
  | .call f x, .call g y => f == g && x.same y
  | .emptyCall f, .emptyCall g => f == g
  | .operator s, .operator t => s == t
  | .applied s x, .applied t y => s == t && x.same y
  | .subQuery s, .subQuery t => s.same t
  | .statement s, .statement t => s.same t
  | .values xs, .values ys => sameRows xs ys
  | _, _ => false

/-- Equality token by token. -/
def sameTokens : List Token → List Token → Bool
  | [], [] => true
  | x :: xs, y :: ys => x.same y && sameTokens xs ys
  | _, _ => false

/-- Equality row by row. -/
def sameRows : List (List Token) → List (List Token) → Bool
  | [], [] => true
  | x :: xs, y :: ys => sameTokens x y && sameRows xs ys
  | _, _ => false

/-- Equality of children. -/
def Child.same : Child → Child → Bool
  | .leaf x, .leaf y => x.same y
  | .node k xs, .node l ys => k == l && sameChildren xs ys
  | _, _ => false

/-- Equality child by child. -/
def sameChildren : List Child → List Child → Bool
  | [], [] => true
  | x :: xs, y :: ys => x.same y && sameChildren xs ys
  | _, _ => false

/-- Equality of trees. -/
def Tree.same : Tree → Tree → Bool
  | .here xs, .here ys => sameChildren xs ys
  | .inside xs k s, .inside ys l t => sameChildren xs ys && k == l && s.same t
  | _, _ => false

end

instance : BEq Token := ⟨Token.same⟩
instance : BEq Tree := ⟨Tree.same⟩

end ClauseTree
