import ClauseTree.Proofs.Assembly
import ClauseTree.Proofs.StatementPrinter

/-!
# Statements are printed as their trees are written

Clause by clause, the children of an assembled statement and its printers write the same.
Each lemma follows the definition of its printer: the part of a node is put together like
its children, and the layout of the node does what the combinator says.  The statement
follows from its clauses, and the statements inside of it by induction on how many
tokens a tree holds.
-/

namespace ClauseTree

variable {mode : Mode} {embedded : Tree → Writing String}

/-- Leaves and phrases keep to the separator of the node that they stand in. -/
theorem glue_map {α : Type} {child : α → Child}
    (kept : ∀ element, (child element).glue = .separator) (elements : List α) :
    ∀ made ∈ elements.map child, made.glue = .separator := by
  intro made member
  obtain ⟨element, -, rfl⟩ := List.mem_map.mp member
  exact kept element

/-! ### Conditions -/

mutual

/-- The printer of a term agrees with the walk over its node. -/
theorem Term.prints : ∀ term : Term,
    Prints mode embedded [term.child] [term.print mode embedded]
  | .predicate tokens => (Prints.leaves tokens).phrase rfl
  | .group items => (prints_itemParts items).grouped

/-- The printer of a term in its place agrees with the walk over the node of its link. -/
theorem Item.prints : ∀ item : Item,
    Prints mode embedded [item.child] [item.print mode embedded]
  | ⟨.lead, term⟩ => term.prints
  | ⟨.leadNot, term⟩ => term.prints.spaced rfl rfl
  | ⟨.joined .and, term⟩ => term.prints.spaced rfl rfl
  | ⟨.joined .or, term⟩ => term.prints.spaced rfl rfl
  | ⟨.joined .andNot, term⟩ => term.prints.spaced rfl rfl
  | ⟨.joined .orNot, term⟩ => term.prints.spaced rfl rfl

private theorem prints_itemParts : ∀ items : List Item,
    Prints mode embedded (itemChildren items) (itemParts mode embedded items)
  | [] => .nil
  | item :: rest => item.prints.cons (prints_itemParts rest)

end

/-- A clause of conditions is printed behind its keyword, and not at all without terms. -/
theorem Conditions.prints (conditions : Conditions) {kind : NodeKind} {keyword : String}
    (layout : kind.layout = NodeKind.spaced keyword) (named : keyword.isEmpty = false) :
    Prints mode embedded (conditions.clause kind) [conditions.print mode embedded keyword] :=
  ((prints_itemParts conditions.items).spaced layout named).unlessEmpty

/-! ### Clauses of several statements -/

/-- A part that is there under a condition. -/
theorem Prints.presentIf {present : Bool} {children : List Child} {parts : List (Writing String)}
    (prints : Prints mode embedded children parts) :
    Prints mode embedded (if present then children else []) (if present then parts else []) := by
  split
  · exact prints
  · exact .nil

/-- Parts that are there unless a list is empty. -/
theorem Prints.absentIf {absent : Bool} {children : List Child} {parts : List (Writing String)}
    (prints : Prints mode embedded children parts) :
    Prints mode embedded (if absent then [] else children) (if absent then [] else parts) := by
  split
  · exact .nil
  · exact prints

/-- A leaf that may be missing. -/
theorem prints_optionalLeaf (token : Option Token) :
    Prints mode embedded (token.map Child.leaf).toList
      (token.map fun token => token.print mode embedded).toList := by
  cases token with
  | none => exact .nil
  | some token => exact .leaf token

private theorem prints_optionalClause {kind : NodeKind} {keyword : String}
    (layout : kind.layout = NodeKind.spaced keyword) (named : keyword.isEmpty = false)
    (token : Option Token) :
    Prints mode embedded (optionalClause kind token)
      [printOptional mode embedded keyword token] := by
  cases token with
  | none => exact .absent
  | some token => exact (Prints.leaf token).spaced layout named

/-- A clause of tokens is printed with commas between them, and not at all when there are
none. -/
theorem prints_tokenClause {kind : NodeKind} {keyword : String}
    (layout : kind.layout = NodeKind.listed keyword) (named : keyword.isEmpty = false)
    (tokens : List Token) :
    Prints mode embedded (tokenClause kind tokens) [printListed mode embedded keyword tokens] :=
  ((Prints.leaves tokens).listed (glue_map (fun _ => rfl) tokens) layout named).unlessEmpty

private theorem Assignment.prints (assignment : Assignment) :
    Prints mode embedded [assignment.child] [assignment.print mode embedded] :=
  ((Prints.leaf assignment.target).cons
    ((Prints.raw "=").cons (.leaf assignment.value))).phrase rfl

private theorem prints_assignmentClause {kind : NodeKind} {keyword : String}
    (layout : kind.layout = NodeKind.listed keyword) (named : keyword.isEmpty = false)
    (assignments : List Assignment) :
    Prints mode embedded (assignmentClause kind assignments)
      [printAssignments mode embedded keyword assignments] :=
  ((Prints.map Assignment.prints assignments).listed (glue_map (fun _ => rfl) assignments)
    layout named).unlessEmpty

private theorem prints_filterClause (filter : Conditions) (cursor : Option Token) :
    Prints mode embedded (filterClause filter cursor)
      [printFilter mode embedded filter cursor] := by
  cases cursor with
  | none => exact filter.prints rfl rfl
  | some cursor => exact (Prints.leaf cursor).spaced rfl rfl

/-! ### Row sources and named queries -/

/-- A source is printed from its fields. -/
theorem FromItem.prints (item : FromItem) :
    Prints mode embedded [item.child] [item.print mode embedded] := by
  obtain ⟨only, source, sample⟩ := item
  refine Prints.phrase ?_ rfl
  refine Prints.append (Prints.append ?keyword (.leaf source)) ?sample
  case keyword => exact (Prints.raw "ONLY").presentIf
  case sample =>
    cases sample with
    | none => exact .nil
    | some sample =>
        exact ((Prints.leaf sample.method).cons (prints_optionalLeaf sample.seed)).spaced rfl rfl

/-- A list of sources is printed with commas between them behind its keyword. -/
theorem FromItem.prints_clause (items : List FromItem) :
    Prints mode embedded (FromItem.clause items) [printSources mode embedded items] :=
  ((Prints.map FromItem.prints items).listed (glue_map (fun _ => rfl) items)
    rfl rfl).unlessEmpty

private theorem JoinKind.layout_kind (joinKind : JoinKind) :
    joinKind.kind.layout = NodeKind.spaced joinKind.keyword := by
  cases joinKind <;> rfl

private theorem JoinKind.keyword_named (joinKind : JoinKind) :
    joinKind.keyword.isEmpty = false := by
  cases joinKind <;> rfl

/-- A join is printed from its fields, with its conditions and its shared columns. -/
theorem Join.prints (join : Join) :
    Prints mode embedded [join.child] [join.print mode embedded] := by
  have on : Prints mode embedded (join.on.clause .on) [join.on.print mode embedded "ON"] :=
    join.on.prints rfl rfl
  have columns : Prints mode embedded (tokenClause .joinUsing join.columns)
      [Printer.unlessEmpty join.columns
        (Printer.parenthesised "USING"
          (join.columns.map fun column => column.print mode embedded))] :=
    ((Prints.leaves join.columns).parenthesised
      (glue_map (fun _ => rfl) join.columns) rfl rfl).unlessEmpty
  exact (join.source.prints.cons (on.append columns)).spaced join.joinKind.layout_kind
    join.joinKind.keyword_named

private theorem OrderBy.prints (term : OrderBy) :
    Prints mode embedded [term.child] [term.print mode embedded] := by
  obtain ⟨expr, direction, nulls⟩ := term
  refine Prints.phrase ?_ rfl
  refine Prints.cons (.leaf expr) (Prints.append (prints_optionalLeaf direction) ?nulls)
  case nulls =>
    cases nulls with
    | none => exact .nil
    | some nulls =>
      -- The node around the placement adds nothing to it.
      have node : Prints mode embedded [.node .nulls [.leaf nulls]]
          [Printer.phrase [nulls.print mode embedded]] := (Prints.leaf nulls).phrase rfl
      rwa [Printer.phrase_singleton] at node

private theorem OrderBy.prints_clause (terms : List OrderBy) :
    Prints mode embedded (OrderBy.clause terms)
      [Printer.unlessEmpty terms
        (Printer.listed "ORDER BY" (terms.map fun term => term.print mode embedded))] :=
  ((Prints.map OrderBy.prints terms).listed (glue_map (fun _ => rfl) terms) rfl rfl).unlessEmpty

private theorem Cte.prints (cte : Cte) : Prints mode embedded [cte.child] [cte.print embedded] := by
  obtain ⟨name, columns, query⟩ := cte
  have names : Prints mode embedded [.leaf (.list (columns.map Token.name))]
      [pure ("(" ++ commaSeparated columns ++ ")")] := by
    rw [← Token.print_names columns]
    exact .leaf _
  have inner : Prints mode embedded [.leaf (.subQuery query)]
      [do let text ← embedded query; pure ("(" ++ text ++ ")")] := by
    rw [← Token.print_subQuery query]
    exact .leaf _
  exact ((Prints.raw name).cons (names.absentIf.append ((Prints.raw "AS").cons inner))).phrase rfl

/-- The named queries are printed in front, as the trees that they are embedded as. -/
theorem With.prints (clause : Option With) :
    Prints mode embedded (With.optional clause) [With.print embedded clause] := by
  cases clause with
  | none => exact .absent
  | some clause =>
      obtain ⟨recursive, ctes⟩ := clause
      have queries : Prints mode embedded (ctes.map Cte.child)
          (ctes.map fun cte => cte.print embedded) := .map Cte.prints ctes
      cases recursive with
      | true => exact (queries.listed (glue_map (fun _ => rfl) ctes) rfl rfl).unlessEmpty
      | false => exact (queries.listed (glue_map (fun _ => rfl) ctes) rfl rfl).unlessEmpty

/-! ### Queries -/

private theorem SetOperator.layout_kind (operator : SetOperator) :
    operator.kind.layout = NodeKind.spaced operator.keyword := by
  cases operator <;> rfl

private theorem SetOperator.keyword_named (operator : SetOperator) :
    operator.keyword.isEmpty = false := by
  cases operator <;> rfl

private theorem Lock.layout_kind (lock : Lock) :
    lock.kind.layout = NodeKind.spaced lock.keyword := by
  cases lock <;> rfl

private theorem Lock.keyword_named (lock : Lock) : lock.keyword.isEmpty = false := by
  cases lock <;> rfl

/-- A statement without parentheses. -/
theorem prints_statement (tree : Tree) :
    Prints mode embedded [.leaf (.statement tree)] [embedded tree] := by
  have leaf : Prints mode embedded [.leaf (.statement tree)]
      [(Token.statement tree).print mode embedded] := .leaf _
  rwa [Token.print_statement] at leaf

namespace Select

private theorem prints_selectList (query : Select) :
    Prints mode embedded [query.selectList] [query.printColumns mode embedded] := by
  have columns : Prints mode embedded (query.columns.map .leaf)
      (query.columns.map fun column => column.print mode embedded) := .leaves query.columns
  have kept : ∀ child ∈ query.columns.map Child.leaf, child.glue = .separator :=
    glue_map (fun _ => rfl) query.columns
  rw [selectList, printColumns]
  cases query.quantifier with
  | plain => exact columns.listed kept rfl rfl
  | all => exact columns.listed kept rfl rfl
  | distinct => exact columns.listed kept rfl rfl
  | distinctOn exprs =>
      have on : Prints mode embedded (tokenClause .distinctOn exprs)
          [Printer.unlessEmpty exprs
            (Printer.parenthesised "ON" (exprs.map fun expr => expr.print mode embedded))] :=
        ((Prints.leaves exprs).parenthesised (glue_map (fun _ => rfl) exprs) rfl rfl).unlessEmpty
      exact (on.append (columns.items kept)).spaced rfl rfl

private theorem prints_setOperation (operation : SetOperator × Tree) :
    Prints mode embedded [setOperationChild operation] [printSetOperation embedded operation] :=
  (prints_statement operation.2).spaced operation.1.layout_kind operation.1.keyword_named

private theorem prints_locking (query : Select) :
    Prints mode embedded (query.locking.map Locking.child).toList
      [query.printLocking mode embedded] := by
  rw [printLocking]
  cases query.locking with
  | none => exact .absent
  | some locking =>
      obtain ⟨strength, tables, wait⟩ := locking
      refine Prints.spaced ?_ strength.layout_kind strength.keyword_named
      refine Prints.append ?tables ?wait
      case tables =>
        rw [tokenClause]
        split
        · exact .nil
        · exact (Prints.raw "OF").cons
            ((Prints.leaves tables).items (glue_map (fun _ => rfl) tables))
      case wait =>
        cases wait with
        | none => exact .nil
        | some wait => exact .raw wait.text

/-- The walk over the clauses of a query is its printer, if the embedded trees are printed
as they are walked. -/
theorem walk_eq_print (query : Select)
    (agree : ∀ tree ∈ childrenTrees query.clauses, embedded tree = tree.walk mode) :
    (Tree.here query.clauses).walk mode = query.print mode embedded := by
  apply Prints.walk_here ?_ agree
  refine Prints.append ?_ query.prints_locking
  refine Prints.append ?_ (prints_optionalClause rfl rfl query.offset)
  refine Prints.append ?_ (prints_optionalClause rfl rfl query.limit)
  refine Prints.append ?_ (OrderBy.prints_clause query.orderBy)
  refine Prints.append ?_ (.map prints_setOperation query.setOperations)
  refine Prints.append ?_ (query.having.prints rfl rfl)
  refine Prints.append ?_ (prints_tokenClause rfl rfl query.groupBy)
  refine Prints.append ?_ (query.filter.prints rfl rfl)
  refine Prints.append ?_ (.map Join.prints query.joins)
  refine Prints.append ?_ (FromItem.prints_clause query.sources)
  exact (With.prints query.withClause).append query.prints_selectList

end Select

/-! ### Insertions -/

namespace OnConflict

private theorem prints_target (conflict : OnConflict) :
    Prints mode embedded conflict.targetClause (conflict.targetParts mode embedded) := by
  rw [targetClause, targetParts]
  cases conflict.target with
  | any => exact .nil
  | columns tokens =>
      refine Prints.cons (.leaf (.list tokens)) ?_
      rw [indexClause]
      split
      · exact conflict.filter.prints rfl rfl
      · exact .absent
  | onConstraint name => exact (Prints.leaf name).spaced rfl rfl

private theorem prints_action (conflict : OnConflict) :
    Prints mode embedded conflict.actionClause (conflict.actionParts mode embedded) := by
  rw [actionClause, actionParts]
  split
  · split
    · exact Prints.nil.spaced rfl rfl
    · exact .absent
  · exact (prints_assignmentClause rfl rfl conflict.assignments).append
      (conflict.filter.prints rfl rfl)

/-- A conflict clause is printed from its fields. -/
theorem prints (conflict : OnConflict) :
    Prints mode embedded [conflict.child] [conflict.print mode embedded] :=
  (conflict.prints_target.append conflict.prints_action).spaced rfl rfl

end OnConflict

namespace Insert

private theorem prints_source (insert : Insert) :
    Prints mode embedded insert.sourceClause [insert.printSource mode embedded] := by
  rw [sourceClause, printSource]
  cases insert.source with
  | none => exact .absent
  | defaultValues => exact Prints.nil.spaced rfl rfl
  | values rows =>
      exact (Prints.map (fun row => .leaf (.list row)) rows).listed (glue_map (fun _ => rfl) rows)
        rfl rfl
  | query tree => exact prints_statement tree

private theorem prints_target (insert : Insert) :
    Prints mode embedded [insert.target]
      [Printer.spaced "INSERT INTO"
        (insert.table.print mode embedded ::
          if insert.columns.isEmpty then []
          else [(Token.list insert.columns).print mode embedded])] := by
  refine Prints.spaced ?_ rfl rfl
  exact (Prints.leaf insert.table).cons (Prints.leaf (.list insert.columns)).absentIf

private theorem prints_overriding (insert : Insert) :
    Prints mode embedded
      (optionalClause .overriding (insert.overriding.map fun overriding => .name overriding.text))
      [insert.printOverriding] := by
  rw [printOverriding]
  cases insert.overriding with
  | none => exact .absent
  | some overriding => exact (Prints.raw overriding.text).spaced rfl rfl

private theorem prints_conflict (insert : Insert) :
    Prints mode embedded (insert.onConflict.map OnConflict.child).toList
      [insert.printConflict mode embedded] := by
  rw [printConflict]
  cases insert.onConflict with
  | none => exact .absent
  | some conflict => exact conflict.prints

/-- The walk over the clauses of an insertion is its printer. -/
theorem walk_eq_print (insert : Insert)
    (agree : ∀ tree ∈ childrenTrees insert.clauses, embedded tree = tree.walk mode) :
    (Tree.here insert.clauses).walk mode = insert.print mode embedded := by
  apply Prints.walk_here ?_ agree
  refine Prints.append ?_ (prints_tokenClause rfl rfl insert.returning)
  refine Prints.append ?_ insert.prints_conflict
  refine Prints.append ?_ insert.prints_source
  refine Prints.append ?_ insert.prints_overriding
  exact (With.prints insert.withClause).append insert.prints_target

end Insert

/-! ### Updates and deletions -/

/-- The table behind its keyword, with or without what inherits from it. -/
theorem prints_restricted {kind : NodeKind} {keyword : String} (only : Bool) (table : Token)
    (layout : kind.layout = NodeKind.spaced keyword) (named : keyword.isEmpty = false) :
    Prints mode embedded
      [.node kind ((if only then [.leaf (.name "ONLY")] else []) ++ [.leaf table])]
      [Printer.spaced keyword
        ((if only then [pure "ONLY"] else []) ++ [table.print mode embedded])] :=
  ((Prints.raw "ONLY").presentIf.append (.leaf table)).spaced layout named

/-- The walk over the clauses of an update is its printer. -/
theorem Update.walk_eq_print (update : Update)
    (agree : ∀ tree ∈ childrenTrees update.clauses, embedded tree = tree.walk mode) :
    (Tree.here update.clauses).walk mode = update.print mode embedded := by
  apply Prints.walk_here ?_ agree
  refine Prints.append ?_ (prints_tokenClause rfl rfl update.returning)
  refine Prints.append ?_ (prints_filterClause update.filter update.cursor)
  refine Prints.append ?_ (FromItem.prints_clause update.sources)
  refine Prints.append ?_ (prints_assignmentClause rfl rfl update.assignments)
  exact (With.prints update.withClause).append
    (prints_restricted update.only update.table rfl rfl)

/-- The walk over the clauses of a deletion is its printer. -/
theorem Delete.walk_eq_print (delete : Delete)
    (agree : ∀ tree ∈ childrenTrees delete.clauses, embedded tree = tree.walk mode) :
    (Tree.here delete.clauses).walk mode = delete.print mode embedded := by
  apply Prints.walk_here ?_ agree
  refine Prints.append ?_ (prints_tokenClause rfl rfl delete.returning)
  refine Prints.append ?_ (prints_filterClause delete.filter delete.cursor)
  refine Prints.append ?_ (prints_tokenClause rfl rfl delete.sources)
  exact (With.prints delete.withClause).append
    (prints_restricted delete.only delete.table rfl rfl)

/-! ### Sequences -/

namespace CreateSequence

private theorem prints_number (n : Int64) :
    Prints mode embedded [numberLeaf n] [printNumber n] := by
  have printed : (Token.number (.int n)).print mode embedded = printNumber n := by
    rw [Token.number, Token.print_plain]
    cases mode <;> rfl
  rw [← printed]
  exact .leaf _

private theorem prints_bound {present none : NodeKind} {keyword absent : String}
    (bound : Option Bound) (layout : present.layout = NodeKind.spaced keyword)
    (named : keyword.isEmpty = false)
    (noLayout : none.layout = NodeKind.spaced absent) (noNamed : absent.isEmpty = false) :
    Prints mode embedded (boundClause bound present none)
      [printBound keyword absent bound] := by
  match bound with
  | some (.value n) => exact (prints_number n).spaced layout named
  | some .none => exact Prints.nil.spaced noLayout noNamed
  | .none => exact .absent

private theorem prints_spelled {short long : NodeKind} {keyword longKeyword : String}
    (number : Option Spelled)
    (layout : short.layout = NodeKind.spaced keyword) (named : keyword.isEmpty = false)
    (longLayout : long.layout = NodeKind.spaced longKeyword)
    (longNamed : longKeyword.isEmpty = false) :
    Prints mode embedded (spelledClause number short long)
      [printSpelled keyword longKeyword number] := by
  match number with
  | some ⟨true, n⟩ => exact (prints_number n).spaced longLayout longNamed
  | some ⟨false, n⟩ => exact (prints_number n).spaced layout named
  | none => exact .absent

private theorem prints_cache (cache : Option Int64) :
    Prints mode embedded (cache.map fun n => Child.node .cache [numberLeaf n]).toList
      [printCache cache] := by
  cases cache with
  | none => exact .absent
  | some count => exact (prints_number count).spaced rfl rfl

private theorem prints_cycle (cycle : Option Bool) :
    Prints mode embedded (cycleClause cycle) [printCycle cycle] := by
  match cycle with
  | none => exact .absent
  | some true => exact Prints.nil.spaced rfl rfl
  | some false => exact Prints.nil.spaced rfl rfl

private theorem prints_target (sequence : CreateSequence) :
    Prints mode embedded [sequence.target]
      [Printer.spaced (if sequence.temporary then "CREATE TEMP SEQUENCE" else "CREATE SEQUENCE")
        ((if sequence.ifNotExists then [pure "IF NOT EXISTS"] else []) ++
          [sequence.name.print mode embedded])] := by
  have parts : Prints mode embedded
      ((if sequence.ifNotExists then [.leaf (.name "IF NOT EXISTS")] else []) ++
        [.leaf sequence.name])
      ((if sequence.ifNotExists then [pure "IF NOT EXISTS"] else []) ++
        [sequence.name.print mode embedded]) :=
    (Prints.raw "IF NOT EXISTS").presentIf.append (.leaf sequence.name)
  rw [target]
  cases sequence.temporary with
  | true => exact parts.spaced rfl rfl
  | false => exact parts.spaced rfl rfl

/-- The walk over the options of a sequence is its printer. -/
theorem walk_eq_print (sequence : CreateSequence)
    (agree : ∀ tree ∈ childrenTrees sequence.clauses, embedded tree = tree.walk mode) :
    (Tree.here sequence.clauses).walk mode = sequence.print mode embedded := by
  apply Prints.walk_here ?_ agree
  refine Prints.append ?_ (prints_optionalClause rfl rfl sequence.ownedBy)
  refine Prints.append ?_ (prints_cycle sequence.cycle)
  refine Prints.append ?_ (prints_cache sequence.cache)
  refine Prints.append ?_ (prints_spelled sequence.start rfl rfl rfl rfl)
  refine Prints.append ?_ (prints_bound sequence.maxValue rfl rfl rfl rfl)
  refine Prints.append ?_ (prints_bound sequence.minValue rfl rfl rfl rfl)
  refine Prints.append ?_ (prints_spelled sequence.increment rfl rfl rfl rfl)
  refine Prints.append ?_ (prints_optionalClause rfl rfl sequence.dataType)
  exact sequence.prints_target

end CreateSequence

/-! ### Statements inside of statements -/

/-- The tree of a statement is written as the statement is printed, as soon as the trees
inside of it are.  They hold fewer tokens than the tree around them. -/
theorem Statement.walk_toTree {statement : Statement}
    (agree : ∀ tree, tree.traversal.length < statement.toTree.traversal.length →
      embedded tree = tree.walk mode) :
    statement.toTree.walk mode = statement.print mode embedded := by
  have inside (built : statement.toTree = .here statement.clauses) :
      ∀ tree ∈ childrenTrees statement.clauses, embedded tree = tree.walk mode := by
    intro tree member
    apply agree tree
    rw [built]
    exact length_childrenTraversal_lt statement.clauses member
  have built := statement.assembled_eq_here
  cases statement with
  | select query => exact (congrArg _ built).trans (query.walk_eq_print (inside built))
  | insert insertion => exact (congrArg _ built).trans (insertion.walk_eq_print (inside built))
  | update change => exact (congrArg _ built).trans (change.walk_eq_print (inside built))
  | delete deletion => exact (congrArg _ built).trans (deletion.walk_eq_print (inside built))
  | createSequence sequence =>
      exact (congrArg _ built).trans (sequence.walk_eq_print (inside built))
  | tree own => rfl

/-- Whatever statements trees are said to come from, printing from their fields writes what
the walk writes. -/
theorem Origins.print_eq_walk (origins : Origins) (mode : Mode) (tree : Tree) :
    origins.print mode tree = tree.walk mode := by
  have origin := (origins tree).2
  rw [Origins.print, ← congrArg (Tree.walk mode) origin]
  refine (Statement.walk_toTree ?_).symm
  intro inner fewer
  have less : inner.traversal.length < tree.traversal.length := by rwa [origin] at fewer
  rw [if_pos less]
  exact print_eq_walk origins mode inner
termination_by tree.traversal.length

/-- A statement is written as it is printed from its fields. -/
theorem Statement.walk_toTree_eq_printed (statement : Statement) (origins : Origins)
    (mode : Mode) : statement.toTree.walk mode = statement.printed origins mode :=
  Statement.walk_toTree fun tree _ => origins.print_eq_walk mode tree

/-- What the tree of a statement is written as is what its fields are printed as: the
literal text, and the prepared text with the parameters numbered in its order.  The
statements inside of it are printed from their fields too, at any depth. -/
theorem Statement.output_eq_printed (statement : Statement) (origins : Origins) :
    statement.sql = (statement.printed origins .literal .empty).1 ∧
      ∀ style, statement.prepared style =
        ⟨(statement.printed origins (.prepared style) .empty).1,
          (statement.printed origins (.prepared style) .empty).2⟩ := by
  constructor
  · rw [← statement.walk_toTree_eq_printed origins]
    rfl
  · intro style
    rw [← statement.walk_toTree_eq_printed origins]
    rfl

end ClauseTree
