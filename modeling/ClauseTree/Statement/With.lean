import ClauseTree.Statement.Clause

/-!
# Common table expressions

The named queries in front of a statement.  A query is taken as the tree that
it is at that moment.
-/

namespace ClauseTree

/-- A named query. -/
structure Cte where
  name : String
  columns : List String
  query : Tree
deriving BEq

/-- The named queries of a statement. -/
structure With where
  recursive : Bool
  ctes : List Cte
deriving BEq

/-- A name that waits for its query. -/
structure PendingCte where
  clause : With
  name : String
  columns : List String
deriving BEq

/-- Write a named query. -/
def Cte.steps (cte : Cte) : List Step :=
  [.start .phrase, .leaf (.name cte.name)] ++
    (if cte.columns.isEmpty then [] else [.leaf (.list (cte.columns.map Token.name))]) ++
    [.leaf (.name "AS"), .leaf (.subQuery cte.query)] ++
    [.close]

namespace With

/-- No queries yet. -/
def start (recursive : Bool) : With :=
  { recursive := recursive, ctes := [] }

def size (clause : With) : Nat :=
  clause.ctes.length

def isEmpty (clause : With) : Bool :=
  clause.ctes.isEmpty

/-- Name the next query. -/
def next (clause : With) (name : String) (columns : List String) : PendingCte :=
  { clause := clause, name := name, columns := columns }

/-- Name the next query and mark the clause as recursive. -/
def nextRecursive (clause : With) (name : String) (columns : List String) : PendingCte :=
  { clause with recursive := true }.next name columns

/-- Write the clause, or nothing when there are no queries. -/
def steps (clause : With) : List Step :=
  if clause.isEmpty then []
  else
    [.start (if clause.recursive then .withRecursive else .withCtes)] ++
      clause.ctes.flatMap Cte.steps ++
      [.close]

/-- Write the clause of a statement that may have none. -/
def optionalSteps : Option With → List Step
  | none => []
  | some clause => clause.steps

end With

/-- Give the waiting name its query. -/
def PendingCte.asQuery (pending : PendingCte) (query : Tree) : With :=
  { pending.clause with
    ctes := pending.clause.ctes ++
      [{ name := pending.name, columns := pending.columns, query := query }] }

end ClauseTree
