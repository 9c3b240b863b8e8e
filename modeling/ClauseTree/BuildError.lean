/-!
# Build errors

What can go wrong when a tree is put together node by node: a node is closed
that was never opened, or the text is asked for too early.
-/

namespace ClauseTree

/-- Misuse of a tree. -/
inductive BuildError where
  /-- A node was closed while only the root was open. -/
  | unbalancedEnd
  /-- The text was asked for while nodes were still open. -/
  | unclosedNodes (count : Nat)
  /-- The text was asked for before anything was attached. -/
  | emptyTree
deriving DecidableEq, Repr

namespace BuildError

/-- The wording of each error. -/
def message : BuildError → String
  | .unbalancedEnd => "end_node called with only the root node open"
  | .unclosedNodes count =>
      "cannot render: " ++ toString count ++ " node(s) still open"
  | .emptyTree => "cannot render: the tree has no clauses"

/-- Whether nodes were opened and closed out of step. -/
def isUnbalanced : BuildError → Bool
  | .unbalancedEnd => true
  | .unclosedNodes _ => true
  | .emptyTree => false

end BuildError

end ClauseTree
