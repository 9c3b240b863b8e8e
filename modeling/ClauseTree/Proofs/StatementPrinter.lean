import ClauseTree.Proofs.Printer
import ClauseTree.Statement

/-!
# Printers of statements

Each statement printed from its fields: the clauses in the order of the grammar, each of
them a keyword and its elements, and nothing where a clause is absent.  A statement that
stands inside another one is printed by whatever prints embedded trees.

At the end the two are tied together.  When it is known of which statement every tree is
the tree, a statement is printed from its fields at any depth.
-/

namespace ClauseTree

open Printer

/-! ### Keywords -/

def Connective.keyword : Connective → String
  | .and => "AND"
  | .or => "OR"
  | .andNot => "AND NOT"
  | .orNot => "OR NOT"

/-- What stands before a term; a plain first term stands by itself. -/
def Link.keyword? : Link → Option String
  | .lead => none
  | .leadNot => some "NOT"
  | .joined connective => some connective.keyword

def JoinKind.keyword : JoinKind → String
  | .join => "JOIN"
  | .inner => "INNER JOIN"
  | .left => "LEFT JOIN"
  | .right => "RIGHT JOIN"
  | .full => "FULL JOIN"
  | .cross => "CROSS JOIN"
  | .natural => "NATURAL JOIN"

def SetOperator.keyword : SetOperator → String
  | .union => "UNION"
  | .unionAll => "UNION ALL"
  | .unionDistinct => "UNION DISTINCT"
  | .intersect => "INTERSECT"
  | .intersectAll => "INTERSECT ALL"
  | .intersectDistinct => "INTERSECT DISTINCT"
  | .except => "EXCEPT"
  | .exceptAll => "EXCEPT ALL"
  | .exceptDistinct => "EXCEPT DISTINCT"

def Lock.keyword : Lock → String
  | .update => "FOR UPDATE"
  | .noKeyUpdate => "FOR NO KEY UPDATE"
  | .share => "FOR SHARE"
  | .keyShare => "FOR KEY SHARE"

section

variable (mode : Mode) (embedded : Tree → Writing String)

/-! ### Conditions -/

mutual

def Term.print : Term → Writing String
  | .predicate tokens => phrase (tokens.map fun token => token.print mode embedded)
  | .group items => grouped (itemParts items)

def Item.print : Item → Writing String
  | ⟨link, term⟩ =>
      match link.keyword? with
      | none => term.print
      | some keyword => spaced keyword [term.print]

def itemParts : List Item → List (Writing String)
  | [] => []
  | item :: rest => item.print :: itemParts rest

end

/-- The terms behind a keyword. -/
def Conditions.print (keyword : String) (conditions : Conditions) : Writing String :=
  unlessEmpty conditions.items (spaced keyword (itemParts mode embedded conditions.items))

/-! ### Clauses of several statements -/

/-- A clause of one token. -/
def printOptional (keyword : String) : Option Token → Writing String
  | none => pure ""
  | some token => spaced keyword [token.print mode embedded]

/-- A clause of tokens. -/
def printListed (keyword : String) (tokens : List Token) : Writing String :=
  unlessEmpty tokens (listed keyword (tokens.map fun token => token.print mode embedded))

def Assignment.print (assignment : Assignment) : Writing String :=
  phrase [assignment.target.print mode embedded, pure "=", assignment.value.print mode embedded]

def printAssignments (keyword : String) (assignments : List Assignment) : Writing String :=
  unlessEmpty assignments
    (listed keyword (assignments.map fun assignment => assignment.print mode embedded))

/-- The conditions, or the cursor that takes their place. -/
def printFilter (filter : Conditions) : Option Token → Writing String
  | none => filter.print mode embedded "WHERE"
  | some cursor => spaced "WHERE CURRENT OF" [cursor.print mode embedded]

def FromItem.print (item : FromItem) : Writing String :=
  phrase
    ((if item.only then [pure "ONLY"] else []) ++
      [item.source.print mode embedded] ++
      match item.sample with
      | none => []
      | some sample =>
          [spaced "TABLESAMPLE"
            (sample.method.print mode embedded ::
              (sample.seed.map fun seed => seed.print mode embedded).toList)])

def printSources (items : List FromItem) : Writing String :=
  unlessEmpty items (listed "FROM" (items.map fun item => item.print mode embedded))

def Join.print (join : Join) : Writing String :=
  spaced join.joinKind.keyword
    [join.source.print mode embedded, join.on.print mode embedded "ON",
      unlessEmpty join.columns
        (parenthesised "USING" (join.columns.map fun column => column.print mode embedded))]

def OrderBy.print (term : OrderBy) : Writing String :=
  phrase
    (term.expr.print mode embedded ::
      ((term.direction.map fun direction => direction.print mode embedded).toList ++
        (term.nulls.map fun nulls => nulls.print mode embedded).toList))

/-- A name, its columns, and the query in parentheses. -/
def Cte.print (cte : Cte) : Writing String :=
  phrase
    (pure cte.name ::
      ((if cte.columns.isEmpty then [] else [pure ("(" ++ commaSeparated cte.columns ++ ")")]) ++
        [pure "AS", do let text ← embedded cte.query; pure ("(" ++ text ++ ")")]))

def With.print : Option With → Writing String
  | none => pure ""
  | some clause =>
      unlessEmpty clause.ctes
        (listed (if clause.recursive then "WITH RECURSIVE" else "WITH")
          (clause.ctes.map fun cte => cte.print embedded))

/-! ### Queries -/

namespace Select

/-- The output columns behind the quantifier. -/
def printColumns (query : Select) : Writing String :=
  let columns := query.columns.map fun column => column.print mode embedded
  match query.quantifier with
  | .plain => listed "SELECT" columns
  | .all => listed "SELECT ALL" columns
  | .distinct => listed "SELECT DISTINCT" columns
  | .distinctOn exprs =>
      spaced "SELECT DISTINCT"
        [unlessEmpty exprs (parenthesised "ON" (exprs.map fun expr => expr.print mode embedded)),
          items columns]

def printSetOperation (operation : SetOperator × Tree) : Writing String :=
  spaced operation.1.keyword [embedded operation.2]

def printOrderBy (query : Select) : Writing String :=
  unlessEmpty query.orderBy
    (listed "ORDER BY" (query.orderBy.map fun term => term.print mode embedded))

def printLocking (query : Select) : Writing String :=
  match query.locking with
  | none => pure ""
  | some locking =>
      spaced locking.strength.keyword
        ((if locking.tables.isEmpty then []
          else [pure "OF", items (locking.tables.map fun table => table.print mode embedded)]) ++
          (locking.wait.map fun wait => pure wait.text).toList)

def print (query : Select) : Writing String :=
  Printer.clauses
    ([With.print embedded query.withClause] ++
      [query.printColumns mode embedded] ++
      [printSources mode embedded query.sources] ++
      query.joins.map (fun join => join.print mode embedded) ++
      [query.filter.print mode embedded "WHERE"] ++
      [printListed mode embedded "GROUP BY" query.groupBy] ++
      [query.having.print mode embedded "HAVING"] ++
      query.setOperations.map (printSetOperation embedded) ++
      [query.printOrderBy mode embedded] ++
      [printOptional mode embedded "LIMIT" query.limit] ++
      [printOptional mode embedded "OFFSET" query.offset] ++
      [query.printLocking mode embedded])

end Select

/-! ### Insertions -/

namespace OnConflict

/-- Which conflicts are handled.  Without an update the conditions belong to the columns. -/
def targetParts (conflict : OnConflict) : List (Writing String) :=
  match conflict.target with
  | .any => []
  | .columns tokens =>
      [(Token.list tokens).print mode embedded,
        if conflict.assignments.isEmpty then conflict.filter.print mode embedded "WHERE"
        else pure ""]
  | .onConstraint name => [spaced "ON CONSTRAINT" [name.print mode embedded]]

/-- What happens at a conflict. -/
def actionParts (conflict : OnConflict) : List (Writing String) :=
  if conflict.assignments.isEmpty then [if conflict.doNothing then pure "DO NOTHING" else pure ""]
  else
    [printAssignments mode embedded "DO UPDATE SET" conflict.assignments,
      conflict.filter.print mode embedded "WHERE"]

def print (conflict : OnConflict) : Writing String :=
  spaced "ON CONFLICT" (conflict.targetParts mode embedded ++ conflict.actionParts mode embedded)

end OnConflict

namespace Insert

def printSource (insert : Insert) : Writing String :=
  match insert.source with
  | .none => pure ""
  | .defaultValues => pure "DEFAULT VALUES"
  | .values rows => listed "VALUES" (rows.map fun row => (Token.list row).print mode embedded)
  | .query tree => embedded tree

def printOverriding (insert : Insert) : Writing String :=
  match insert.overriding with
  | none => pure ""
  | some overriding => spaced "OVERRIDING" [pure overriding.text]

def printConflict (insert : Insert) : Writing String :=
  match insert.onConflict with
  | none => pure ""
  | some conflict => conflict.print mode embedded

def print (insert : Insert) : Writing String :=
  Printer.clauses
    ([With.print embedded insert.withClause] ++
      [spaced "INSERT INTO"
        (insert.table.print mode embedded ::
          if insert.columns.isEmpty then []
          else [(Token.list insert.columns).print mode embedded])] ++
      [insert.printOverriding] ++
      [insert.printSource mode embedded] ++
      [insert.printConflict mode embedded] ++
      [printListed mode embedded "RETURNING" insert.returning])

end Insert

/-! ### Updates and deletions -/

def Update.print (update : Update) : Writing String :=
  Printer.clauses
    ([With.print embedded update.withClause] ++
      [spaced "UPDATE"
        ((if update.only then [pure "ONLY"] else []) ++ [update.table.print mode embedded])] ++
      [printAssignments mode embedded "SET" update.assignments] ++
      [printSources mode embedded update.sources] ++
      [printFilter mode embedded update.filter update.cursor] ++
      [printListed mode embedded "RETURNING" update.returning])

def Delete.print (delete : Delete) : Writing String :=
  Printer.clauses
    ([With.print embedded delete.withClause] ++
      [spaced "DELETE FROM"
        ((if delete.only then [pure "ONLY"] else []) ++ [delete.table.print mode embedded])] ++
      [printListed mode embedded "USING" delete.sources] ++
      [printFilter mode embedded delete.filter delete.cursor] ++
      [printListed mode embedded "RETURNING" delete.returning])

/-! ### Sequences -/

namespace CreateSequence

/-- A number is written out in either mode. -/
def printNumber (n : Int64) : Writing String :=
  pure (Value.int n).sql

/-- A bound behind its keyword, or the keyword of its absence. -/
def printBound (keyword absent : String) : Option Bound → Writing String
  | none => pure ""
  | some .none => pure absent
  | some (.value n) => spaced keyword [printNumber n]

def printSpelled (short long : String) : Option Spelled → Writing String
  | none => pure ""
  | some number => spaced (if number.long then long else short) [printNumber number.amount]

def printCache : Option Int64 → Writing String
  | none => pure ""
  | some count => spaced "CACHE" [printNumber count]

def printCycle : Option Bool → Writing String
  | none => pure ""
  | some true => pure "CYCLE"
  | some false => pure "NO CYCLE"

def print (sequence : CreateSequence) : Writing String :=
  Printer.clauses
    ([spaced (if sequence.temporary then "CREATE TEMP SEQUENCE" else "CREATE SEQUENCE")
        ((if sequence.ifNotExists then [pure "IF NOT EXISTS"] else []) ++
          [sequence.name.print mode embedded])] ++
      [printOptional mode embedded "AS" sequence.dataType] ++
      [printSpelled "INCREMENT" "INCREMENT BY" sequence.increment] ++
      [printBound "MINVALUE" "NO MINVALUE" sequence.minValue] ++
      [printBound "MAXVALUE" "NO MAXVALUE" sequence.maxValue] ++
      [printSpelled "START" "START WITH" sequence.start] ++
      [printCache sequence.cache] ++
      [printCycle sequence.cycle] ++
      [printOptional mode embedded "OWNED BY" sequence.ownedBy])

end CreateSequence

/-! ### Statements -/

/-- A statement from its fields.  A tree written by hand has none. -/
def Statement.print : Statement → Writing String
  | .select query => query.print mode embedded
  | .insert insertion => insertion.print mode embedded
  | .update change => change.print mode embedded
  | .delete deletion => deletion.print mode embedded
  | .createSequence sequence => sequence.print mode embedded
  | .tree own => own.walk mode

end

/-- For each tree a statement that it is the tree of.  A tree is at least its own; the
statement that it was taken from may be told instead. -/
def Origins : Type :=
  (tree : Tree) → { statement : Statement // statement.toTree = tree }

instance : Inhabited Origins := ⟨fun tree => ⟨.tree tree, rfl⟩⟩

/-- A tree printed from the fields of the statement that it comes from, and so on for the
trees inside of it.  A tree that a statement embeds holds fewer tokens than its own. -/
def Origins.print (origins : Origins) (mode : Mode) (tree : Tree) : Writing String :=
  (origins tree).1.print mode fun inner =>
    if inner.traversal.length < tree.traversal.length then origins.print mode inner else pure ""
termination_by tree.traversal.length

/-- A statement printed from its fields, and those of the statements inside of it. -/
def Statement.printed (statement : Statement) (origins : Origins) (mode : Mode) :
    Writing String :=
  statement.print mode (origins.print mode)

end ClauseTree
