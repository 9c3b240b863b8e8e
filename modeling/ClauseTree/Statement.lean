import ClauseTree.Statement.CreateSequence
import ClauseTree.Statement.Delete
import ClauseTree.Statement.Insert
import ClauseTree.Statement.Select
import ClauseTree.Statement.Update

/-!
# Statements

Anything that can stand where a statement is expected.  A statement is assembled
into a tree by taking the steps that write its clauses, in the order of the
grammar.  A tree that was written by hand is a statement too: it is its own
tree, and assembled into another tree it becomes one leaf of it.
-/

namespace ClauseTree

/-- A recorded statement, or a tree. -/
inductive Statement where
  | select (query : Select)
  | insert (insertion : Insert)
  | update (change : Update)
  | delete (deletion : Delete)
  | createSequence (sequence : CreateSequence)
  | tree (written : Tree)
deriving BEq

namespace Statement

/-- Write the clauses. -/
def steps : Statement → List Step
  | .select s => s.steps
  | .insert s => s.steps
  | .update s => s.steps
  | .delete s => s.steps
  | .createSequence s => s.steps
  | .tree t => [.leaf (.statement t)]

/-- Write the clauses into the innermost open node of a tree. -/
def assemble (statement : Statement) (target : Tree) : Tree :=
  target.written statement.steps

/-- The statement assembled into a new tree. -/
def assembled (statement : Statement) : Tree :=
  statement.assemble .empty

/-- The tree of a statement.  A tree is its own. -/
def toTree : Statement → Tree
  | .tree t => t
  | statement => statement.assembled

/-- The literal text. -/
def sql (statement : Statement) : String :=
  statement.toTree.sql

/-- The text with placeholders, and what they stand for. -/
def prepared (style : Placeholder) (statement : Statement) : Prepared :=
  statement.toTree.prepared style

end Statement

namespace With

/-! ### The statement behind the named queries -/

def select (clause : With) (columns : List Token) : Select :=
  { Select.ofColumns columns with withClause := some clause }

def insertInto (clause : With) (table : Token) : Insert :=
  { Insert.into table with withClause := some clause }

def update (clause : With) (table : Token) : Update :=
  { Update.ofTable table with withClause := some clause }

def updateOnly (clause : With) (table : Token) : Update :=
  (clause.update table).onlyTable

def deleteFrom (clause : With) (table : Token) : Delete :=
  { Delete.ofTable table with withClause := some clause }

def deleteFromOnly (clause : With) (table : Token) : Delete :=
  (clause.deleteFrom table).onlyTable

end With

end ClauseTree
