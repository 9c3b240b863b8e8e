import ClauseTree.Conditions

/-!
# Clauses

The clauses that several statements share, as the steps that write them.
-/

namespace ClauseTree

/-- Write a clause of tokens, or nothing when there are none. -/
def listSteps (kind : NodeKind) (tokens : List Token) : List Step :=
  if tokens.isEmpty then [] else [.start kind] ++ tokens.map .leaf ++ [.close]

/-- Write a clause of one token, or nothing. -/
def optionSteps (kind : NodeKind) (token : Option Token) : List Step :=
  match token with
  | none => []
  | some token => [.start kind, .leaf token, .close]

/-- `target = value` in a list of assignments. -/
structure Assignment where
  target : Token
  value : Token
deriving BEq

/-- Write an assignment. -/
def Assignment.steps (assignment : Assignment) : List Step :=
  [.start .phrase, .leaf assignment.target, .leaf (.name "="), .leaf assignment.value, .close]

/-- Write a clause of assignments, or nothing when there are none. -/
def assignmentSteps (kind : NodeKind) (assignments : List Assignment) : List Step :=
  if assignments.isEmpty then []
  else [.start kind] ++ assignments.flatMap Assignment.steps ++ [.close]

/-- Write the conditions, or the cursor that takes their place. -/
def filterSteps (filter : Conditions) (cursor : Option Token) : List Step :=
  match cursor with
  | some cursor => [.start .whereCurrentOf, .leaf cursor, .close]
  | none => filter.clauseSteps .whereClause

end ClauseTree
