import ClauseTree.Statement.Clause

/-!
# Sort terms

An expression with an optional direction and an optional placement of nulls.
-/

namespace ClauseTree

/-- Where nulls are sorted. -/
inductive Nulls where
  | first
  | last
deriving DecidableEq, Repr

def Nulls.text : Nulls → String
  | .first => "NULLS FIRST"
  | .last => "NULLS LAST"

/-- One term of an `ORDER BY` list. -/
structure OrderBy where
  expr : Token
  direction : Option Token
  nulls : Option Token
deriving BEq

namespace OrderBy

/-- An expression by itself. -/
def ofToken (expr : Token) : OrderBy :=
  { expr := expr, direction := none, nulls := none }

/-- Sort in a direction, given as raw text or any other token. -/
def sorting (term : OrderBy) (direction : Token) : OrderBy :=
  { term with direction := some direction }

def asc (term : OrderBy) : OrderBy := term.sorting (.name "ASC")

def desc (term : OrderBy) : OrderBy := term.sorting (.name "DESC")

/-- Place nulls as a token says. -/
def placing (term : OrderBy) (placement : Token) : OrderBy :=
  { term with nulls := some placement }

/-- Place nulls first or last. -/
def placingNulls (term : OrderBy) (nulls : Nulls) : OrderBy :=
  term.placing (.name nulls.text)

/-- An expression with a direction. -/
def ofPair (expr direction : Token) : OrderBy :=
  (ofToken expr).sorting direction

/-- An expression with a direction and a placement of nulls. -/
def ofTriple (expr direction placement : Token) : OrderBy :=
  (ofPair expr direction).placing placement

/-- Write a term.  The placement of nulls stands in a node of its own. -/
def steps (term : OrderBy) : List Step :=
  [.start .phrase, .leaf term.expr] ++
    (term.direction.map Step.leaf).toList ++
    optionSteps .nulls term.nulls ++
    [.close]

/-- Write an `ORDER BY` clause, or nothing when there are no terms. -/
def clauseSteps (terms : List OrderBy) : List Step :=
  if terms.isEmpty then [] else [.start .orderBy] ++ terms.flatMap steps ++ [.close]

end OrderBy

end ClauseTree
