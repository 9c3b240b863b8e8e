import ClauseTree.Statement.With

/-!
# Deletions
-/

namespace ClauseTree

/-- A deletion of rows of a table. -/
structure Delete where
  withClause : Option With
  /-- Whether inheriting tables are left out. -/
  only : Bool
  table : Token
  sources : List Token
  filter : Conditions
  /-- The cursor whose row is deleted, in place of any conditions. -/
  cursor : Option Token
  returning : List Token
deriving BEq

namespace Delete

/-- A deletion from a table. -/
def ofTable (table : Token) : Delete :=
  { withClause := none, only := false, table := table, sources := [], filter := .empty,
    cursor := none, returning := [] }

/-! ### Recording clauses -/

/-- Leave out inheriting tables. -/
def onlyTable (delete : Delete) : Delete :=
  { delete with only := true }

/-- A deletion from a table without those that inherit from it. -/
def ofTableOnly (table : Token) : Delete :=
  (ofTable table).onlyTable

/-- Give the table another name. -/
def aliased (delete : Delete) (name : String) : Delete :=
  { delete with table := delete.table.aliased name [] }

/-- Append sources. -/
def addSources (delete : Delete) (items : List Token) : Delete :=
  { delete with sources := delete.sources ++ items }

/-- Change the `WHERE` conditions. -/
def changeWhere (delete : Delete) (change : Conditions → Conditions) : Delete :=
  { delete with filter := change delete.filter }

/-- Push conditions onto `WHERE`. -/
def pushWhere (delete : Delete) (connective : Connective) (conditions : Conditions) :
    Delete :=
  delete.changeWhere fun filter => filter.push connective conditions

/-- Make a sequence the `WHERE` conditions. -/
def installWhere (delete : Delete) (conditions : Conditions) : Delete :=
  delete.changeWhere fun filter => filter.install conditions

/-- Delete the row of a cursor. -/
def whereCurrentOf (delete : Delete) (cursor : String) : Delete :=
  { delete with cursor := some (.name cursor) }

/-- Append output columns. -/
def addReturning (delete : Delete) (columns : List Token) : Delete :=
  { delete with returning := delete.returning ++ columns }

/-! ### Histories -/

/-- One step of recording a deletion. -/
inductive Call where
  | only
  | aliased (name : String)
  | sources (tokens : List Token)
  | filter (connective : Connective) (conditions : Conditions)
  | filterSequence (conditions : Conditions)
  /-- Borrow the `WHERE` conditions and put others in their place. -/
  | filterChange (change : Conditions → Conditions)
  | whereCurrentOf (cursor : String)
  | returning (tokens : List Token)

/-- The deletion after a step. -/
def apply (delete : Delete) : Call → Delete
  | .only => delete.onlyTable
  | .aliased name => delete.aliased name
  | .sources tokens => delete.addSources tokens
  | .filter connective conditions => delete.pushWhere connective conditions
  | .filterSequence conditions => delete.installWhere conditions
  | .filterChange change => delete.changeWhere change
  | .whereCurrentOf cursor => delete.whereCurrentOf cursor
  | .returning tokens => delete.addReturning tokens

/-! ### Writing -/

/-- Write the table behind its keyword. -/
def targetSteps (delete : Delete) : List Step :=
  [.start .deleteFrom] ++
    (if delete.only then [.leaf (.name "ONLY")] else []) ++
    [.leaf delete.table] ++
    [.close]

/-- Write the clauses in the order of the grammar. -/
def steps (delete : Delete) : List Step :=
  With.optionalSteps delete.withClause ++
    delete.targetSteps ++
    listSteps .usingItems delete.sources ++
    filterSteps delete.filter delete.cursor ++
    listSteps .returning delete.returning

end Delete

end ClauseTree
