/-!
# Operators

The common comparison operators by name.  Any other operator is written as raw
text.
-/

namespace ClauseTree

/-- A comparison or containment operator. -/
inductive Operator where
  | eq | ne | lt | lte | gt | gte
  | like | notLike | ilike | notIlike
  | similarTo | notSimilarTo
  | isIn | notIn
  | is | isNot
  | isDistinctFrom | isNotDistinctFrom
  | contains | containedBy | overlaps
deriving DecidableEq, Repr

namespace Operator

/-- The SQL text of an operator. -/
def symbol : Operator → String
  | .eq => "="
  | .ne => "!="
  | .lt => "<"
  | .lte => "<="
  | .gt => ">"
  | .gte => ">="
  | .like => "LIKE"
  | .notLike => "NOT LIKE"
  | .ilike => "ILIKE"
  | .notIlike => "NOT ILIKE"
  | .similarTo => "SIMILAR TO"
  | .notSimilarTo => "NOT SIMILAR TO"
  | .isIn => "IN"
  | .notIn => "NOT IN"
  | .is => "IS"
  | .isNot => "IS NOT"
  | .isDistinctFrom => "IS DISTINCT FROM"
  | .isNotDistinctFrom => "IS NOT DISTINCT FROM"
  | .contains => "@>"
  | .containedBy => "<@"
  | .overlaps => "&&"

end Operator

end ClauseTree
