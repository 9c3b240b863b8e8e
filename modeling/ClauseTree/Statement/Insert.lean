import ClauseTree.Statement.With

/-!
# Insertions

The rows of an insertion come from one source: default values, rows of values
or a query.  What happens at a conflict is one clause with a target, an action
and conditions; the conditions belong to the update if there is one, and
otherwise to the columns of the target.
-/

namespace ClauseTree

/-- Which of two values for an identity column counts. -/
inductive Overriding where
  | systemValue
  | userValue
deriving DecidableEq, Repr

def Overriding.text : Overriding → String
  | .systemValue => "SYSTEM VALUE"
  | .userValue => "USER VALUE"

/-- Where the rows come from. -/
inductive RowSource where
  | none
  | defaultValues
  | values (rows : List (List Token))
  | query (tree : Tree)
deriving BEq

/-- Which conflicts are handled. -/
inductive ConflictTarget where
  | any
  | columns (tokens : List Token)
  | onConstraint (name : Token)
deriving BEq

/-- What happens at a conflict.  Assignments win over doing nothing. -/
structure OnConflict where
  target : ConflictTarget
  doNothing : Bool
  assignments : List Assignment
  filter : Conditions
deriving BEq

/-- An insertion. -/
structure Insert where
  withClause : Option With
  table : Token
  columns : List Token
  overriding : Option Overriding
  source : RowSource
  onConflict : Option OnConflict
  returning : List Token
deriving BEq

namespace OnConflict

/-- A conflict clause with nothing said yet. -/
def empty : OnConflict :=
  { target := .any, doNothing := false, assignments := [], filter := .empty }

/-- Write the target: nothing, a list of columns, or a constraint.  Without an update the
conditions belong to the columns. -/
def targetSteps (conflict : OnConflict) : List Step :=
  match conflict.target with
  | .any => []
  | .columns tokens =>
      [.leaf (.list tokens)] ++
        (if conflict.assignments.isEmpty then conflict.filter.clauseSteps .whereClause else [])
  | .onConstraint name => [.start .onConstraint, .leaf name, .close]

/-- Write the action: an update with its conditions, or nothing to do. -/
def actionSteps (conflict : OnConflict) : List Step :=
  if conflict.assignments.isEmpty then
    if conflict.doNothing then [.start .doNothing, .close] else []
  else
    assignmentSteps .doUpdateSet conflict.assignments ++
      conflict.filter.clauseSteps .whereClause

/-- Write a conflict clause. -/
def steps (conflict : OnConflict) : List Step :=
  [.start .onConflict] ++ conflict.targetSteps ++ conflict.actionSteps ++ [.close]

end OnConflict

namespace Insert

/-- An insertion into a table. -/
def into (table : Token) : Insert :=
  { withClause := none, table := table, columns := [], overriding := none,
    source := .none, onConflict := none, returning := [] }

/-! ### Recording clauses -/

/-- Give the table another name. -/
def aliased (insert : Insert) (name : String) : Insert :=
  { insert with table := insert.table.aliased name [] }

/-- Append target columns. -/
def addColumns (insert : Insert) (columns : List Token) : Insert :=
  { insert with columns := insert.columns ++ columns }

def override (insert : Insert) (overriding : Overriding) : Insert :=
  { insert with overriding := some overriding }

def defaultValues (insert : Insert) : Insert :=
  { insert with source := .defaultValues }

/-- Append a row of values; any other source is dropped. -/
def addRow (insert : Insert) (row : List Token) : Insert :=
  match insert.source with
  | .values rows => { insert with source := .values (rows ++ [row]) }
  | _ => { insert with source := .values [row] }

/-- Insert the rows of a query, taken as the tree that it is now. -/
def query (insert : Insert) (tree : Tree) : Insert :=
  { insert with source := .query tree }

/-- Change the conflict clause, which is made when it is first spoken of. -/
def changeConflict (insert : Insert) (change : OnConflict → OnConflict) : Insert :=
  { insert with onConflict := some (change (insert.onConflict.getD .empty)) }

/-- Say which conflicts are handled. -/
def conflictOn (insert : Insert) (target : ConflictTarget) : Insert :=
  insert.changeConflict fun conflict => { conflict with target := target }

/-- Do nothing at a conflict; assignments made before are dropped. -/
def doNothing (insert : Insert) : Insert :=
  insert.changeConflict fun conflict =>
    { conflict with doNothing := true, assignments := [] }

/-- Append an assignment to the update at a conflict. -/
def doUpdateSet (insert : Insert) (column value : Token) : Insert :=
  insert.changeConflict fun conflict =>
    { conflict with
      doNothing := false
      assignments := conflict.assignments ++ [{ target := column, value := value }] }

/-- Assign to a column the value that was to be inserted. -/
def doUpdateSetExcluded (insert : Insert) (column : String) : Insert :=
  insert.doUpdateSet (.name column) (.name ("EXCLUDED." ++ column))

/-- Push conditions onto the conflict clause. -/
def doUpdateWhere (insert : Insert) (conditions : Conditions) : Insert :=
  insert.changeConflict fun conflict =>
    { conflict with filter := conflict.filter.push .and conditions }

/-- Append output columns. -/
def addReturning (insert : Insert) (columns : List Token) : Insert :=
  { insert with returning := insert.returning ++ columns }

/-! ### Histories -/

/-- One step of recording an insertion. -/
inductive Call where
  | aliased (name : String)
  | columns (tokens : List Token)
  | overriding (overriding : Overriding)
  | defaultValues
  | values (row : List Token)
  | query (tree : Tree)
  | conflictOn (target : ConflictTarget)
  | doNothing
  | doUpdateSet (column value : Token)
  | doUpdateSetExcluded (column : String)
  | doUpdateWhere (conditions : Conditions)
  | returning (tokens : List Token)

/-- The insertion after a step. -/
def apply (insert : Insert) : Call → Insert
  | .aliased name => insert.aliased name
  | .columns tokens => insert.addColumns tokens
  | .overriding overriding => insert.override overriding
  | .defaultValues => insert.defaultValues
  | .values row => insert.addRow row
  | .query tree => insert.query tree
  | .conflictOn target => insert.conflictOn target
  | .doNothing => insert.doNothing
  | .doUpdateSet column value => insert.doUpdateSet column value
  | .doUpdateSetExcluded column => insert.doUpdateSetExcluded column
  | .doUpdateWhere conditions => insert.doUpdateWhere conditions
  | .returning tokens => insert.addReturning tokens

/-! ### Writing -/

/-- Write the table, and its columns where they are given. -/
def targetSteps (insert : Insert) : List Step :=
  [.start .insertInto, .leaf insert.table] ++
    (if insert.columns.isEmpty then [] else [.leaf (.list insert.columns)]) ++
    [.close]

/-- Write the source of the rows. -/
def sourceSteps (insert : Insert) : List Step :=
  match insert.source with
  | .none => []
  | .defaultValues => [.start .defaultValues, .close]
  | .values rows => [.start .values] ++ rows.map (fun row => .leaf (.list row)) ++ [.close]
  | .query tree => [.leaf (.statement tree)]

/-- Write the clauses in the order of the grammar. -/
def steps (insert : Insert) : List Step :=
  With.optionalSteps insert.withClause ++
    insert.targetSteps ++
    optionSteps .overriding
      (insert.overriding.map fun overriding => .name overriding.text) ++
    insert.sourceSteps ++
    ((insert.onConflict.map OnConflict.steps).getD []) ++
    listSteps .returning insert.returning

end Insert

end ClauseTree
