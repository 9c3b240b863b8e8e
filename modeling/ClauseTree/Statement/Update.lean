import ClauseTree.Statement.FromItem
import ClauseTree.Statement.With

/-!
# Updates
-/

namespace ClauseTree

/-- An update of the rows of a table. -/
structure Update where
  withClause : Option With
  /-- Whether inheriting tables are left out. -/
  only : Bool
  table : Token
  assignments : List Assignment
  sources : List FromItem
  filter : Conditions
  /-- The cursor whose row is updated, in place of any conditions. -/
  cursor : Option Token
  returning : List Token
deriving BEq

namespace Update

/-- An update of a table. -/
def ofTable (table : Token) : Update :=
  { withClause := none, only := false, table := table, assignments := [], sources := [],
    filter := .empty, cursor := none, returning := [] }

/-! ### Recording clauses -/

/-- Leave out inheriting tables. -/
def onlyTable (update : Update) : Update :=
  { update with only := true }

/-- An update of a table without those that inherit from it. -/
def ofTableOnly (table : Token) : Update :=
  (ofTable table).onlyTable

/-- Give the table another name. -/
def aliased (update : Update) (name : String) : Update :=
  { update with table := update.table.aliased name [] }

/-- Append an assignment. -/
def set (update : Update) (column value : Token) : Update :=
  { update with
    assignments := update.assignments ++ [{ target := column, value := value }] }

/-- Append an assignment of a row of values to as many columns. -/
def setRow (update : Update) (columns values : List Token) : Update :=
  update.set (.list columns) (.list values)

/-- Append an assignment of the row of a query to as many columns. -/
def setSubQuery (update : Update) (columns : List Token) (query : Tree) : Update :=
  update.set (.list columns) (.subQuery query)

/-- Append a source. -/
def addSource (update : Update) (item : FromItem) : Update :=
  { update with sources := update.sources ++ [item] }

/-- Change the `WHERE` conditions. -/
def changeWhere (update : Update) (change : Conditions → Conditions) : Update :=
  { update with filter := change update.filter }

/-- Push conditions onto `WHERE`. -/
def pushWhere (update : Update) (connective : Connective) (conditions : Conditions) :
    Update :=
  update.changeWhere fun filter => filter.push connective conditions

/-- Make a sequence the `WHERE` conditions. -/
def installWhere (update : Update) (conditions : Conditions) : Update :=
  update.changeWhere fun filter => filter.install conditions

/-- Update the row of a cursor. -/
def whereCurrentOf (update : Update) (cursor : String) : Update :=
  { update with cursor := some (.name cursor) }

/-- Append output columns. -/
def addReturning (update : Update) (columns : List Token) : Update :=
  { update with returning := update.returning ++ columns }

/-! ### Histories -/

/-- One step of recording an update. -/
inductive Call where
  | only
  | aliased (name : String)
  | set (column value : Token)
  | setRow (columns values : List Token)
  | setSubQuery (columns : List Token) (query : Tree)
  | source (item : FromItem)
  | filter (connective : Connective) (conditions : Conditions)
  | filterSequence (conditions : Conditions)
  /-- Borrow the `WHERE` conditions and put others in their place. -/
  | filterChange (change : Conditions → Conditions)
  | whereCurrentOf (cursor : String)
  | returning (tokens : List Token)

/-- The update after a step. -/
def apply (update : Update) : Call → Update
  | .only => update.onlyTable
  | .aliased name => update.aliased name
  | .set column value => update.set column value
  | .setRow columns values => update.setRow columns values
  | .setSubQuery columns query => update.setSubQuery columns query
  | .source item => update.addSource item
  | .filter connective conditions => update.pushWhere connective conditions
  | .filterSequence conditions => update.installWhere conditions
  | .filterChange change => update.changeWhere change
  | .whereCurrentOf cursor => update.whereCurrentOf cursor
  | .returning tokens => update.addReturning tokens

/-! ### Writing -/

/-- Write the table behind its keyword. -/
def targetSteps (update : Update) : List Step :=
  [.start .update] ++
    (if update.only then [.leaf (.name "ONLY")] else []) ++
    [.leaf update.table] ++
    [.close]

/-- Write the clauses in the order of the grammar. -/
def steps (update : Update) : List Step :=
  With.optionalSteps update.withClause ++
    update.targetSteps ++
    assignmentSteps .set update.assignments ++
    FromItem.clauseSteps update.sources ++
    filterSteps update.filter update.cursor ++
    listSteps .returning update.returning

end Update

end ClauseTree
