import ClauseTree.Statement

/-!
# Assembled statements

A statement is assembled by steps that open nodes, append leaves and close nodes.  Here
are the nodes that they leave behind, and for every function that makes steps the proof
that it closes what it opens and leaves just these nodes in the innermost open node of
any tree.  So assembling a statement never fails, and the tree of a statement has its
clauses under the root, in the order of the grammar.
-/

namespace ClauseTree

/-! ### Clauses of several statements -/

/-- A clause of tokens, or nothing when there are none. -/
def tokenClause (kind : NodeKind) (tokens : List Token) : List Child :=
  if tokens.isEmpty then [] else [.node kind (tokens.map .leaf)]

/-- A clause of tokens is one node with a leaf for each of them. -/
theorem writes_listSteps (kind : NodeKind) (tokens : List Token) :
    Writes (listSteps kind tokens) (tokenClause kind tokens) :=
  ((Writes.leaves tokens).node kind).absentIf tokens.isEmpty

/-- A clause of one token, or nothing. -/
def optionalClause (kind : NodeKind) (token : Option Token) : List Child :=
  match token with
  | none => []
  | some token => [.node kind [.leaf token]]

/-- A clause of one token is a node with that leaf. -/
theorem writes_optionSteps (kind : NodeKind) (token : Option Token) :
    Writes (optionSteps kind token) (optionalClause kind token) := by
  cases token with
  | none => exact .nil
  | some token => exact (Writes.leaf token).node kind

/-- A leaf that may be missing. -/
theorem writes_optionalLeaf (token : Option Token) :
    Writes (token.map Step.leaf).toList (token.map Child.leaf).toList := by
  cases token with
  | none => exact .nil
  | some token => exact .leaf token

/-- The node of an assignment. -/
def Assignment.child (assignment : Assignment) : Child :=
  .node .phrase [.leaf assignment.target, .leaf (.name "="), .leaf assignment.value]

private theorem Assignment.writes (assignment : Assignment) :
    Writes assignment.steps [assignment.child] :=
  ((Writes.leaf assignment.target).append
    ((Writes.leaf (.name "=")).append (.leaf assignment.value))).node .phrase

/-- A clause of assignments, or nothing when there are none. -/
def assignmentClause (kind : NodeKind) (assignments : List Assignment) : List Child :=
  if assignments.isEmpty then [] else [.node kind (assignments.map Assignment.child)]

private theorem writes_assignmentSteps (kind : NodeKind) (assignments : List Assignment) :
    Writes (assignmentSteps kind assignments) (assignmentClause kind assignments) :=
  ((Writes.flatMap Assignment.writes assignments).node kind).absentIf assignments.isEmpty

/-- `CURRENT OF` a cursor takes the place of the conditions. -/
def filterClause (filter : Conditions) (cursor : Option Token) : List Child :=
  match cursor with
  | some cursor => [.node .whereCurrentOf [.leaf cursor]]
  | none => filter.clause .whereClause

private theorem writes_filterSteps (filter : Conditions) (cursor : Option Token) :
    Writes (filterSteps filter cursor) (filterClause filter cursor) := by
  cases cursor with
  | none => exact filter.writes_clauseSteps .whereClause
  | some cursor => exact (Writes.leaf cursor).node .whereCurrentOf

/-! ### Row sources -/

namespace FromItem

/-- The node of a sample. -/
def sampleClause (item : FromItem) : List Child :=
  match item.sample with
  | none => []
  | some sample =>
      [.node .tableSample (.leaf sample.method :: (sample.seed.map Child.leaf).toList)]

/-- The node of a source. -/
def child (item : FromItem) : Child :=
  .node .phrase
    ((if item.only then [.leaf (.name "ONLY")] else []) ++ [.leaf item.source] ++
      item.sampleClause)

/-- A `FROM` clause, or nothing when there are no sources. -/
def clause (items : List FromItem) : List Child :=
  if items.isEmpty then [] else [.node .fromItems (items.map child)]

private theorem writes_sampleSteps (item : FromItem) :
    Writes item.sampleSteps item.sampleClause := by
  rw [sampleSteps, sampleClause]
  cases item.sample with
  | none => exact .nil
  | some sample =>
      exact ((Writes.leaf sample.method).append (writes_optionalLeaf sample.seed)).node .tableSample

/-- A source is one node. -/
theorem writes (item : FromItem) : Writes item.steps [item.child] := by
  have only := (Writes.leaf (.name "ONLY")).presentIf item.only
  have source := Writes.leaf item.source
  exact ((only.append source).append item.writes_sampleSteps).node .phrase

/-- A list of sources is one node with a child for each of them. -/
theorem writes_clauseSteps (items : List FromItem) :
    Writes (FromItem.clauseSteps items) (FromItem.clause items) :=
  ((Writes.flatMap writes items).node .fromItems).absentIf items.isEmpty

end FromItem

namespace Join

/-- The node of a join: the source, then `ON`, then `USING`. -/
def child (join : Join) : Child :=
  .node join.joinKind.kind
    (join.source.child :: (join.on.clause .on ++ tokenClause .joinUsing join.columns))

/-- A join is one node: its source, its conditions and its shared columns. -/
theorem writes (join : Join) : Writes join.steps [join.child] := by
  have on := join.on.writes_clauseSteps .on
  have columns := writes_listSteps .joinUsing join.columns
  exact ((join.source.writes.append on).append columns).node join.joinKind.kind

end Join

/-! ### Sort terms and named queries -/

namespace OrderBy

/-- The node of a term.  The placement of nulls stands in a node of its own. -/
def child (term : OrderBy) : Child :=
  .node .phrase
    (.leaf term.expr :: ((term.direction.map Child.leaf).toList ++
      optionalClause .nulls term.nulls))

/-- An `ORDER BY` clause, or nothing when there are no terms. -/
def clause (terms : List OrderBy) : List Child :=
  if terms.isEmpty then [] else [.node .orderBy (terms.map child)]

/-- A sort term is one node. -/
theorem writes (term : OrderBy) : Writes term.steps [term.child] := by
  have direction := writes_optionalLeaf term.direction
  have nulls := writes_optionSteps .nulls term.nulls
  exact (((Writes.leaf term.expr).append direction).append nulls).node .phrase

private theorem writes_clauseSteps (terms : List OrderBy) :
    Writes (OrderBy.clauseSteps terms) (OrderBy.clause terms) :=
  ((Writes.flatMap writes terms).node .orderBy).absentIf terms.isEmpty

end OrderBy

/-- The node of a named query. -/
def Cte.child (cte : Cte) : Child :=
  .node .phrase
    (.leaf (.name cte.name) ::
      ((if cte.columns.isEmpty then []
        else [.leaf (.list (cte.columns.map Token.name))]) ++
        [.leaf (.name "AS"), .leaf (.subQuery cte.query)]))

private theorem Cte.writes (cte : Cte) : Writes cte.steps [cte.child] := by
  have columns := (Writes.leaf (.list (cte.columns.map Token.name))).absentIf cte.columns.isEmpty
  have query := (Writes.leaf (.name "AS")).append (.leaf (.subQuery cte.query))
  exact (((Writes.leaf (.name cte.name)).append columns).append query).node .phrase

namespace With

/-- The clause in front of a statement, or nothing when there are no queries. -/
def children (clause : With) : List Child :=
  if clause.isEmpty then []
  else
    [.node (if clause.recursive then .withRecursive else .withCtes)
      (clause.ctes.map Cte.child)]

/-- The clause of a statement that may have none. -/
def optional : Option With → List Child
  | none => []
  | some clause => clause.children

/-- A clause of named queries is one node, or nothing. -/
theorem writes (clause : With) : Writes clause.steps clause.children :=
  ((Writes.flatMap Cte.writes clause.ctes).node _).absentIf clause.isEmpty

private theorem writes_optionalSteps (clause : Option With) :
    Writes (With.optionalSteps clause) (With.optional clause) := by
  cases clause with
  | none => exact .nil
  | some clause => exact clause.writes

end With

/-! ### Queries -/

/-- The node of a locking clause. -/
def Locking.child (locking : Locking) : Child :=
  .node locking.strength.kind
    ((if locking.tables.isEmpty then []
      else .leaf (.name "OF") :: tokenClause .items locking.tables) ++
      (locking.wait.map fun wait => Child.leaf (.name wait.text)).toList)

private theorem Locking.writes (locking : Locking) : Writes locking.steps [locking.child] := by
  have tables := ((Writes.leaf (.name "OF")).append
    (writes_listSteps .items locking.tables)).absentIf locking.tables.isEmpty
  have wait : Writes (locking.wait.map fun wait => Step.leaf (.name wait.text)).toList
      (locking.wait.map fun wait => Child.leaf (.name wait.text)).toList := by
    cases locking.wait with
    | none => exact .nil
    | some wait => exact .leaf (.name wait.text)
  exact (tables.append wait).node locking.strength.kind

namespace Select

/-- The output columns behind the quantifier.  With `DISTINCT ON` they stand in
a list of their own behind the expressions. -/
def selectList (query : Select) : Child :=
  let columns := query.columns.map Child.leaf
  match query.quantifier with
  | .plain => .node .select columns
  | .all => .node .selectAll columns
  | .distinct => .node .selectDistinct columns
  | .distinctOn exprs =>
      .node .selectDistinctOn (tokenClause .distinctOn exprs ++ [.node .items columns])

/-- The node of a set operation with its right-hand query. -/
def setOperationChild (operation : SetOperator × Tree) : Child :=
  .node operation.1.kind [.leaf (.statement operation.2)]

private theorem writes_columnSteps (query : Select) :
    Writes query.columnSteps [query.selectList] := by
  have columns := Writes.leaves query.columns
  rw [columnSteps, selectList]
  cases query.quantifier with
  | plain => exact columns.node .select
  | all => exact columns.node .selectAll
  | distinct => exact columns.node .selectDistinct
  | distinctOn exprs =>
      exact ((writes_listSteps .distinctOn exprs).append (columns.node .items)).node
        .selectDistinctOn

private theorem writes_setOperationSteps (operation : SetOperator × Tree) :
    Writes (setOperationSteps operation) [setOperationChild operation] :=
  (Writes.leaf (.statement operation.2)).node operation.1.kind

/-- The clauses in the order of the grammar. -/
def clauses (query : Select) : List Child :=
  With.optional query.withClause ++
    [query.selectList] ++
    FromItem.clause query.sources ++
    query.joins.map Join.child ++
    query.filter.clause .whereClause ++
    tokenClause .groupBy query.groupBy ++
    query.having.clause .having ++
    query.setOperations.map setOperationChild ++
    OrderBy.clause query.orderBy ++
    optionalClause .limit query.limit ++
    optionalClause .offset query.offset ++
    (query.locking.map Locking.child).toList

/-- A query writes its clauses, each of them once, in the order of the grammar. -/
theorem writes (query : Select) : Writes query.steps query.clauses := by
  refine Writes.append ?_ (.option Locking.writes query.locking)
  refine Writes.append ?_ (writes_optionSteps .offset query.offset)
  refine Writes.append ?_ (writes_optionSteps .limit query.limit)
  refine Writes.append ?_ (OrderBy.writes_clauseSteps query.orderBy)
  refine Writes.append ?_ (.flatMap writes_setOperationSteps query.setOperations)
  refine Writes.append ?_ (query.having.writes_clauseSteps .having)
  refine Writes.append ?_ (writes_listSteps .groupBy query.groupBy)
  refine Writes.append ?_ (query.filter.writes_clauseSteps .whereClause)
  refine Writes.append ?_ (.flatMap Join.writes query.joins)
  refine Writes.append ?_ (FromItem.writes_clauseSteps query.sources)
  exact (With.writes_optionalSteps query.withClause).append query.writes_columnSteps

end Select

/-! ### Insertions -/

namespace OnConflict

/-- The conditions, if they belong to the columns of the target. -/
def indexClause (conflict : OnConflict) : List Child :=
  if conflict.assignments.isEmpty then conflict.filter.clause .whereClause else []

/-- The target: nothing, a list of columns, or a constraint. -/
def targetClause (conflict : OnConflict) : List Child :=
  match conflict.target with
  | .any => []
  | .columns tokens => .leaf (.list tokens) :: conflict.indexClause
  | .onConstraint name => [.node .onConstraint [.leaf name]]

/-- The action: an update with its conditions, or nothing to do. -/
def actionClause (conflict : OnConflict) : List Child :=
  if conflict.assignments.isEmpty then
    if conflict.doNothing then [.node .doNothing []] else []
  else
    assignmentClause .doUpdateSet conflict.assignments ++
      conflict.filter.clause .whereClause

/-- The node of a conflict clause. -/
def child (conflict : OnConflict) : Child :=
  .node .onConflict (conflict.targetClause ++ conflict.actionClause)

private theorem writes_targetSteps (conflict : OnConflict) :
    Writes conflict.targetSteps conflict.targetClause := by
  rw [targetSteps, targetClause]
  cases conflict.target with
  | any => exact .nil
  | columns tokens =>
      have filter := conflict.filter.writes_clauseSteps .whereClause
      exact (Writes.leaf (.list tokens)).append (filter.presentIf conflict.assignments.isEmpty)
  | onConstraint name => exact (Writes.leaf name).node .onConstraint

private theorem writes_actionSteps (conflict : OnConflict) :
    Writes conflict.actionSteps conflict.actionClause := by
  rw [actionSteps, actionClause]
  split
  · exact (Writes.nil.node .doNothing).presentIf conflict.doNothing
  · exact (writes_assignmentSteps .doUpdateSet conflict.assignments).append
      (conflict.filter.writes_clauseSteps .whereClause)

/-- A conflict clause is one node with its target and its action. -/
theorem writes (conflict : OnConflict) : Writes conflict.steps [conflict.child] :=
  (conflict.writes_targetSteps.append conflict.writes_actionSteps).node .onConflict

end OnConflict

namespace Insert

/-- The source of the rows. -/
def sourceClause (insert : Insert) : List Child :=
  match insert.source with
  | .none => []
  | .defaultValues => [.node .defaultValues []]
  | .values rows => [.node .values (rows.map fun row => .leaf (.list row))]
  | .query tree => [.leaf (.statement tree)]

/-- The table, and its columns where they are given. -/
def target (insert : Insert) : Child :=
  .node .insertInto
    (.leaf insert.table ::
      if insert.columns.isEmpty then [] else [.leaf (.list insert.columns)])

private theorem writes_sourceSteps (insert : Insert) :
    Writes insert.sourceSteps insert.sourceClause := by
  rw [sourceSteps, sourceClause]
  cases insert.source with
  | none => exact .nil
  | defaultValues => exact Writes.nil.node .defaultValues
  | values rows =>
      have leaves := Writes.leaves (rows.map Token.list)
      rw [List.map_map, List.map_map] at leaves
      exact leaves.node .values
  | query tree => exact .leaf (.statement tree)

private theorem writes_targetSteps (insert : Insert) :
    Writes insert.targetSteps [insert.target] := by
  have columns := (Writes.leaf (.list insert.columns)).absentIf insert.columns.isEmpty
  exact ((Writes.leaf insert.table).append columns).node .insertInto

/-- The clauses in the order of the grammar. -/
def clauses (insert : Insert) : List Child :=
  With.optional insert.withClause ++
    [insert.target] ++
    optionalClause .overriding
      (insert.overriding.map fun overriding => .name overriding.text) ++
    insert.sourceClause ++
    (insert.onConflict.map OnConflict.child).toList ++
    tokenClause .returning insert.returning

/-- An insertion writes its clauses in the order of the grammar. -/
theorem writes (insert : Insert) : Writes insert.steps insert.clauses := by
  refine Writes.append ?_ (writes_listSteps .returning insert.returning)
  refine Writes.append ?_ (.option OnConflict.writes insert.onConflict)
  refine Writes.append ?_ insert.writes_sourceSteps
  refine Writes.append ?_ (writes_optionSteps .overriding _)
  exact (With.writes_optionalSteps insert.withClause).append insert.writes_targetSteps

end Insert

/-! ### Updates and deletions -/

/-- A table behind its keyword, with or without what inherits from it. -/
theorem writes_restricted (kind : NodeKind) (only : Bool) (table : Token) :
    Writes ([.start kind] ++ (if only then [.leaf (.name "ONLY")] else []) ++ [.leaf table] ++
        [.close])
      [.node kind ((if only then [.leaf (.name "ONLY")] else []) ++ [.leaf table])] :=
  (((Writes.leaf (.name "ONLY")).presentIf only).append (.leaf table)).node kind

namespace Update

/-- The table behind its keyword. -/
def target (update : Update) : Child :=
  .node .update
    ((if update.only then [.leaf (.name "ONLY")] else []) ++ [.leaf update.table])

/-- The clauses in the order of the grammar. -/
def clauses (update : Update) : List Child :=
  With.optional update.withClause ++
    [update.target] ++
    assignmentClause .set update.assignments ++
    FromItem.clause update.sources ++
    filterClause update.filter update.cursor ++
    tokenClause .returning update.returning

/-- An update writes its clauses in the order of the grammar. -/
theorem writes (update : Update) : Writes update.steps update.clauses := by
  refine Writes.append ?_ (writes_listSteps .returning update.returning)
  refine Writes.append ?_ (writes_filterSteps update.filter update.cursor)
  refine Writes.append ?_ (FromItem.writes_clauseSteps update.sources)
  refine Writes.append ?_ (writes_assignmentSteps .set update.assignments)
  exact (With.writes_optionalSteps update.withClause).append
    (writes_restricted .update update.only update.table)

end Update

namespace Delete

/-- The table behind its keyword. -/
def target (delete : Delete) : Child :=
  .node .deleteFrom
    ((if delete.only then [.leaf (.name "ONLY")] else []) ++ [.leaf delete.table])

/-- The clauses in the order of the grammar. -/
def clauses (delete : Delete) : List Child :=
  With.optional delete.withClause ++
    [delete.target] ++
    tokenClause .usingItems delete.sources ++
    filterClause delete.filter delete.cursor ++
    tokenClause .returning delete.returning

/-- A deletion writes its clauses in the order of the grammar. -/
theorem writes (delete : Delete) : Writes delete.steps delete.clauses := by
  refine Writes.append ?_ (writes_listSteps .returning delete.returning)
  refine Writes.append ?_ (writes_filterSteps delete.filter delete.cursor)
  refine Writes.append ?_ (writes_listSteps .usingItems delete.sources)
  exact (With.writes_optionalSteps delete.withClause).append
    (writes_restricted .deleteFrom delete.only delete.table)

end Delete

/-! ### Sequences -/

namespace CreateSequence

/-- The leaf of a number. -/
def numberLeaf (n : Int64) : Child :=
  .leaf (.number (.int n))

/-- The clause of a bound, or of its absence. -/
def boundClause (bound : Option Bound) (present absent : NodeKind) : List Child :=
  match bound with
  | some (.value n) => [.node present [numberLeaf n]]
  | some .none => [.node absent []]
  | none => []

/-- The clause of a number in its spelling. -/
def spelledClause (number : Option Spelled) (short long : NodeKind) : List Child :=
  match number with
  | none => []
  | some ⟨isLong, n⟩ => [.node (if isLong then long else short) [numberLeaf n]]

/-- Whether the sequence starts over at its end. -/
def cycleClause : Option Bool → List Child
  | none => []
  | some true => [.node .cycle []]
  | some false => [.node .noCycle []]

private theorem writes_numberSteps (kind : NodeKind) (n : Int64) :
    Writes (numberSteps kind n) [.node kind [numberLeaf n]] :=
  (Writes.leaf (.number (.int n))).node kind

private theorem writes_boundSteps (bound : Option Bound) (present absent : NodeKind) :
    Writes (boundSteps bound present absent) (boundClause bound present absent) := by
  match bound with
  | some (.value n) => exact writes_numberSteps present n
  | some .none => exact Writes.nil.node absent
  | none => exact .nil

private theorem writes_spelledSteps (number : Option Spelled) (short long : NodeKind) :
    Writes (spelledSteps number short long) (spelledClause number short long) := by
  cases number with
  | none => exact .nil
  | some number => exact writes_numberSteps _ number.amount

private theorem writes_cycleSteps (cycle : Option Bool) :
    Writes (cycleSteps cycle) (cycleClause cycle) := by
  match cycle with
  | none => exact .nil
  | some true => exact Writes.nil.node .cycle
  | some false => exact Writes.nil.node .noCycle

/-- The name behind its keyword. -/
def target (sequence : CreateSequence) : Child :=
  .node (if sequence.temporary then .createTempSequence else .createSequence)
    ((if sequence.ifNotExists then [.leaf (.name "IF NOT EXISTS")] else []) ++
      [.leaf sequence.name])

private theorem writes_targetSteps (sequence : CreateSequence) :
    Writes sequence.targetSteps [sequence.target] := by
  have condition := (Writes.leaf (.name "IF NOT EXISTS")).presentIf sequence.ifNotExists
  exact (condition.append (.leaf sequence.name)).node _

/-- The options in the order of the grammar. -/
def clauses (sequence : CreateSequence) : List Child :=
  [sequence.target] ++
    optionalClause .asType sequence.dataType ++
    spelledClause sequence.increment .increment .incrementBy ++
    boundClause sequence.minValue .minValue .noMinValue ++
    boundClause sequence.maxValue .maxValue .noMaxValue ++
    spelledClause sequence.start .start .startWith ++
    (sequence.cache.map fun n => Child.node .cache [numberLeaf n]).toList ++
    cycleClause sequence.cycle ++
    optionalClause .ownedBy sequence.ownedBy

/-- The creation of a sequence writes its options in the order of the grammar. -/
theorem writes (sequence : CreateSequence) : Writes sequence.steps sequence.clauses := by
  refine Writes.append ?_ (writes_optionSteps .ownedBy sequence.ownedBy)
  refine Writes.append ?_ (writes_cycleSteps sequence.cycle)
  refine Writes.append ?_ (.option (writes_numberSteps .cache) sequence.cache)
  refine Writes.append ?_ (writes_spelledSteps sequence.start .start .startWith)
  refine Writes.append ?_ (writes_boundSteps sequence.maxValue .maxValue .noMaxValue)
  refine Writes.append ?_ (writes_boundSteps sequence.minValue .minValue .noMinValue)
  refine Writes.append ?_ (writes_spelledSteps sequence.increment .increment .incrementBy)
  refine Writes.append ?_ (writes_optionSteps .asType sequence.dataType)
  exact sequence.writes_targetSteps

end CreateSequence

/-! ### Statements -/

namespace Statement

/-- What a statement leaves in a tree. -/
def clauses : Statement → List Child
  | .select s => s.clauses
  | .insert s => s.clauses
  | .update s => s.clauses
  | .delete s => s.clauses
  | .createSequence s => s.clauses
  | .tree t => [.leaf (.statement t)]

/-- Every statement writes its clauses, whatever is open where it is assembled. -/
theorem writes (statement : Statement) : Writes statement.steps statement.clauses := by
  cases statement with
  | select query => exact query.writes
  | insert insertion => exact insertion.writes
  | update change => exact change.writes
  | delete deletion => exact deletion.writes
  | createSequence sequence => exact sequence.writes
  | tree written => exact .leaf (.statement written)

/-- Assembling a statement fails in no tree, and closes no node that was open before. -/
theorem assemble_eq_attach (statement : Statement) (target : Tree) :
    statement.assemble target = target.attach statement.clauses :=
  statement.writes.written target

/-- An assembled statement is its clauses under the root, with every node closed. -/
theorem assembled_eq_here (statement : Statement) :
    statement.assembled = .here statement.clauses := by
  rw [assembled, assemble_eq_attach]
  rfl

end Statement

end ClauseTree
