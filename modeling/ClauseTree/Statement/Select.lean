import ClauseTree.Statement.FromItem
import ClauseTree.Statement.OrderBy
import ClauseTree.Statement.With
import ClauseTree.Token.Convert

/-!
# Queries

A query records its clauses in any order and writes them in the order of the
grammar.  Three of its clauses hold conditions: `WHERE`, `HAVING` and the `ON`
of each join.  Continuing a condition means continuing the clause that was
opened last; for a join that is the last one.
-/

namespace ClauseTree

/-- Which rows of a query are kept. -/
inductive Quantifier where
  | plain
  | all
  | distinct
  | distinctOn (exprs : List Token)
deriving BEq

/-- How two queries are combined. -/
inductive SetOperator where
  | union
  | unionAll
  | unionDistinct
  | intersect
  | intersectAll
  | intersectDistinct
  | except
  | exceptAll
  | exceptDistinct
deriving DecidableEq, Repr

/-- The node of a set operation. -/
def SetOperator.kind : SetOperator → NodeKind
  | .union => .union
  | .unionAll => .unionAll
  | .unionDistinct => .unionDistinct
  | .intersect => .intersect
  | .intersectAll => .intersectAll
  | .intersectDistinct => .intersectDistinct
  | .except => .except
  | .exceptAll => .exceptAll
  | .exceptDistinct => .exceptDistinct

/-- The strength of a row lock. -/
inductive Lock where
  | update
  | noKeyUpdate
  | share
  | keyShare
deriving DecidableEq, Repr

/-- The node of a row lock. -/
def Lock.kind : Lock → NodeKind
  | .update => .forUpdate
  | .noKeyUpdate => .forNoKeyUpdate
  | .share => .forShare
  | .keyShare => .forKeyShare

/-- What happens at a row that is locked already. -/
inductive Wait where
  | nowait
  | skipLocked
deriving DecidableEq, Repr

def Wait.text : Wait → String
  | .nowait => "NOWAIT"
  | .skipLocked => "SKIP LOCKED"

/-- A locking clause. -/
structure Locking where
  strength : Lock
  tables : List Token
  wait : Option Wait
deriving BEq

/-- Write a locking clause. -/
def Locking.steps (locking : Locking) : List Step :=
  [.start locking.strength.kind] ++
    (if locking.tables.isEmpty then []
      else [.leaf (.name "OF")] ++ listSteps .items locking.tables) ++
    (locking.wait.map fun wait => Step.leaf (.name wait.text)).toList ++
    [.close]

/-- The clause whose conditions are continued. -/
inductive Target where
  | where
  | having
  | join
deriving DecidableEq, Repr

/-- A query. -/
structure Select where
  withClause : Option With
  quantifier : Quantifier
  columns : List Token
  sources : List FromItem
  joins : List Join
  filter : Conditions
  groupBy : List Token
  having : Conditions
  setOperations : List (SetOperator × Tree)
  orderBy : List OrderBy
  limit : Option Token
  offset : Option Token
  locking : Option Locking
  target : Target
deriving BEq

namespace Select

/-- A query without clauses; it is written as a bare `SELECT`. -/
def empty : Select :=
  { withClause := none, quantifier := .plain, columns := [], sources := [], joins := [],
    filter := .empty, groupBy := [], having := .empty, setOperations := [],
    orderBy := [], limit := none, offset := none, locking := none, target := .where }

/-- A query of the given columns. -/
def ofColumns (columns : List Token) : Select :=
  { empty with columns := columns }

/-! ### Recording clauses -/

/-- Append output columns. -/
def addColumns (query : Select) (columns : List Token) : Select :=
  { query with columns := query.columns ++ columns }

def quantify (query : Select) (quantifier : Quantifier) : Select :=
  { query with quantifier := quantifier }

/-- `SELECT ALL` of the given columns. -/
def ofAll (columns : List Token) : Select :=
  (empty.quantify .all).addColumns columns

/-- `SELECT DISTINCT` of the given columns. -/
def ofDistinct (columns : List Token) : Select :=
  (empty.quantify .distinct).addColumns columns

/-- `SELECT DISTINCT ON (exprs)` of the given columns. -/
def ofDistinctOn (exprs columns : List Token) : Select :=
  (empty.quantify (.distinctOn exprs)).addColumns columns

/-- Append sources. -/
def addSources (query : Select) (items : List FromItem) : Select :=
  { query with sources := query.sources ++ items }

/-- Append a join and continue its conditions from now on. -/
def addJoin (query : Select) (joinKind : JoinKind) (item : FromItem) : Select :=
  { query with joins := query.joins ++ [.ofItem joinKind item], target := .join }

/-- Change the conditions of the last join and continue them from now on.
Without a join nothing happens. -/
def changeOn (query : Select) (change : Conditions → Conditions) : Select :=
  if query.joins.isEmpty then query
  else
    { query with
      joins := Join.modifyLast (fun join => { join with on := change join.on }) query.joins
      target := .join }

/-- Push conditions onto the last join. -/
def pushOn (query : Select) (conditions : Conditions) : Select :=
  query.changeOn fun on => on.push .and conditions

/-- Make a sequence the conditions of the last join. -/
def installOn (query : Select) (conditions : Conditions) : Select :=
  query.changeOn fun on => on.install conditions

/-- Append shared columns to the last join.  Without a join nothing happens. -/
def addUsing (query : Select) (columns : List Token) : Select :=
  { query with
    joins :=
      Join.modifyLast (fun join => { join with columns := join.columns ++ columns })
        query.joins }

/-- Change the `WHERE` conditions and continue them from now on. -/
def changeWhere (query : Select) (change : Conditions → Conditions) : Select :=
  { query with filter := change query.filter, target := .where }

/-- Push conditions onto `WHERE` and continue it from now on. -/
def pushWhere (query : Select) (conditions : Conditions) : Select :=
  query.changeWhere fun filter => filter.push .and conditions

/-- Make a sequence the `WHERE` conditions. -/
def installWhere (query : Select) (conditions : Conditions) : Select :=
  query.changeWhere fun filter => filter.install conditions

/-- Push conditions onto `HAVING` and continue it from now on. -/
def pushHaving (query : Select) (conditions : Conditions) : Select :=
  { query with having := query.having.push .and conditions, target := .having }

/-- Make a sequence the `HAVING` conditions. -/
def installHaving (query : Select) (conditions : Conditions) : Select :=
  { query with having := query.having.install conditions, target := .having }

/-- Change the conditions of the clause that was opened last. -/
def changeActive (query : Select) (change : Conditions → Conditions) : Select :=
  let inWhere := { query with filter := change query.filter }
  match query.target with
  | .where => inWhere
  | .having => { query with having := change query.having }
  | .join =>
      if query.joins.isEmpty then inWhere
      else
        { query with
          joins :=
            Join.modifyLast (fun join => { join with on := change join.on }) query.joins }

/-- Continue the conditions of the clause that was opened last. -/
def extend (query : Select) (connective : Connective) (conditions : Conditions) : Select :=
  query.changeActive fun active => active.push connective conditions

/-- Append grouping elements. -/
def addGroupBy (query : Select) (items : List Token) : Select :=
  { query with groupBy := query.groupBy ++ items }

/-- Combine with another query, taken as the tree that it is now. -/
def combine (query : Select) (operator : SetOperator) (other : Tree) : Select :=
  { query with setOperations := query.setOperations ++ [(operator, other)] }

/-- Append a sort term. -/
def addOrderBy (query : Select) (term : OrderBy) : Select :=
  { query with orderBy := query.orderBy ++ [term] }

/-- `LIMIT` with a bound number. -/
def limitTo (query : Select) (count : Int64) : Select :=
  { query with limit := some (.constant (.int count)) }

/-- `LIMIT ALL` -/
def limitAll (query : Select) : Select :=
  { query with limit := some (.name "ALL") }

/-- `OFFSET` with a bound number. -/
def offsetBy (query : Select) (count : Int64) : Select :=
  { query with offset := some (.constant (.int count)) }

/-- Lock the rows; an earlier locking clause is dropped whole. -/
def lock (query : Select) (strength : Lock) : Select :=
  { query with locking := some { strength := strength, tables := [], wait := none } }

/-- Append tables to the locking clause.  Without one nothing happens. -/
def lockTables (query : Select) (tables : List Token) : Select :=
  { query with
    locking := query.locking.map fun locking =>
      { locking with tables := locking.tables ++ tables } }

/-- What to do at locked rows.  Without a locking clause nothing happens. -/
def waiting (query : Select) (wait : Wait) : Select :=
  { query with locking := query.locking.map fun locking => { locking with wait := some wait } }

/-! ### Histories -/

/-- One step of recording a query. -/
inductive Call where
  | columns (tokens : List Token)
  | quantifier (quantifier : Quantifier)
  | sources (items : List FromItem)
  | join (joinKind : JoinKind) (item : FromItem)
  | on (conditions : Conditions)
  | onSequence (conditions : Conditions)
  | usingColumns (tokens : List Token)
  | filter (conditions : Conditions)
  | filterSequence (conditions : Conditions)
  /-- Borrow the `WHERE` conditions and put others in their place. -/
  | filterChange (change : Conditions → Conditions)
  | having (conditions : Conditions)
  | havingSequence (conditions : Conditions)
  | extend (connective : Connective) (conditions : Conditions)
  /-- Borrow the conditions that are continued and put others in their place. -/
  | activeChange (change : Conditions → Conditions)
  | groupBy (tokens : List Token)
  | combine (operator : SetOperator) (other : Tree)
  | orderBy (term : OrderBy)
  | limit (count : Int64)
  | limitAll
  | offset (count : Int64)
  | lock (strength : Lock)
  | lockTables (tokens : List Token)
  | wait (wait : Wait)

namespace Call

/-- Append one output column. -/
def column (column : Token) : Call :=
  .columns [column]

/-- Append one source. -/
def source (item : FromItem) : Call :=
  .sources [item]

/-- Append a table without those that inherit from it. -/
def sourceOnly (table : Token) : Call :=
  source (.onlyFrom table)

/-- `ON (true)` or `ON (false)` -/
def onBool (holds : Bool) : Call :=
  .on (.predicate [.list [toToken holds]])

/-- `ON (group)`.  The group is made one term before it is pushed. -/
def onGroup (group : Conditions) : Call :=
  .on (Conditions.empty.push .and group)

/-- `FOR UPDATE` -/
def forUpdate : Call :=
  .lock .update

/-- `FOR SHARE` -/
def forShare : Call :=
  .lock .share

end Call

/-- The query after a step. -/
def apply (query : Select) : Call → Select
  | .columns tokens => query.addColumns tokens
  | .quantifier quantifier => query.quantify quantifier
  | .sources items => query.addSources items
  | .join joinKind item => query.addJoin joinKind item
  | .on conditions => query.pushOn conditions
  | .onSequence conditions => query.installOn conditions
  | .usingColumns tokens => query.addUsing tokens
  | .filter conditions => query.pushWhere conditions
  | .filterSequence conditions => query.installWhere conditions
  | .filterChange change => query.changeWhere change
  | .having conditions => query.pushHaving conditions
  | .havingSequence conditions => query.installHaving conditions
  | .extend connective conditions => query.extend connective conditions
  | .activeChange change => query.changeActive change
  | .groupBy tokens => query.addGroupBy tokens
  | .combine operator other => query.combine operator other
  | .orderBy term => query.addOrderBy term
  | .limit count => query.limitTo count
  | .limitAll => query.limitAll
  | .offset count => query.offsetBy count
  | .lock strength => query.lock strength
  | .lockTables tokens => query.lockTables tokens
  | .wait wait => query.waiting wait

/-- A group on a join is pushed like any other conditions. -/
theorem apply_onGroup (query : Select) (group : Conditions) :
    query.apply (.onGroup group) = query.pushOn group := by
  rw [Call.onGroup, apply, pushOn]
  simp only [Conditions.push_gathered]
  rfl

/-- The query after several steps. -/
def run (query : Select) (calls : List Call) : Select :=
  calls.foldl apply query

/-! ### Writing -/

/-- Write the output columns behind the quantifier.  With `DISTINCT ON` they stand in
a list of their own behind the expressions. -/
def columnSteps (query : Select) : List Step :=
  let columns := query.columns.map Step.leaf
  match query.quantifier with
  | .plain => [.start .select] ++ columns ++ [.close]
  | .all => [.start .selectAll] ++ columns ++ [.close]
  | .distinct => [.start .selectDistinct] ++ columns ++ [.close]
  | .distinctOn exprs =>
      [.start .selectDistinctOn] ++
        listSteps .distinctOn exprs ++
        ([.start .items] ++ columns ++ [.close]) ++
        [.close]

/-- Write a set operation with its right-hand query. -/
def setOperationSteps (operation : SetOperator × Tree) : List Step :=
  [.start operation.1.kind, .leaf (.statement operation.2), .close]

/-- Write the clauses in the order of the grammar. -/
def steps (query : Select) : List Step :=
  With.optionalSteps query.withClause ++
    query.columnSteps ++
    FromItem.clauseSteps query.sources ++
    query.joins.flatMap Join.steps ++
    query.filter.clauseSteps .whereClause ++
    listSteps .groupBy query.groupBy ++
    query.having.clauseSteps .having ++
    query.setOperations.flatMap setOperationSteps ++
    OrderBy.clauseSteps query.orderBy ++
    optionSteps .limit query.limit ++
    optionSteps .offset query.offset ++
    ((query.locking.map Locking.steps).getD [])

end Select

end ClauseTree
