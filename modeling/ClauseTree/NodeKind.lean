/-!
# Node kinds

The kinds of inner nodes of a clause tree, and for each of them the rule by
which it is written: a keyword, what stands between the children, and whether
the children are put in parentheses.  Every keyword and punctuation mark of a
clause is decided here.
-/

namespace ClauseTree

/-- When the written children of a node are put in parentheses. -/
inductive Parens where
  | never
  | always
  /-- Only when more than one child is written. -/
  | whenMany
deriving DecidableEq, Repr

/-- What stands between a node and the sibling written before it. -/
inductive Glue where
  /-- The separator of the parent. -/
  | separator
  /-- One blank, whatever the separator of the parent is. -/
  | space
deriving DecidableEq, Repr

/-- How a node of some kind is written. -/
structure Layout where
  /-- Stands before the children, with a blank behind it when there are any. -/
  keyword : String
  /-- Stands between two written children. -/
  separator : String
  parens : Parens
  glue : Glue
deriving DecidableEq, Repr

/-- The kinds of inner nodes. -/
inductive NodeKind where
  /-- The root of every tree. -/
  | root
  /-- Parts with blanks between them, without a keyword. -/
  | phrase
  /-- Parts with commas between them, without a keyword. -/
  | items
  /-- A nested group of conditions, in parentheses when it holds more than one. -/
  | group
  | not
  | and
  | or
  | andNot
  | orNot
  | withCtes
  | withRecursive
  | select
  | selectAll
  | selectDistinct
  /-- `SELECT DISTINCT` before an `ON (...)` and the output columns. -/
  | selectDistinctOn
  | distinctOn
  | fromItems
  | tableSample
  | join
  | innerJoin
  | leftJoin
  | rightJoin
  | fullJoin
  | crossJoin
  | naturalJoin
  | on
  | joinUsing
  | whereClause
  | whereCurrentOf
  | groupBy
  | having
  | union
  | unionAll
  | unionDistinct
  | intersect
  | intersectAll
  | intersectDistinct
  | except
  | exceptAll
  | exceptDistinct
  | orderBy
  /-- The placement of nulls in an order term; it stands behind a blank whatever the list. -/
  | nulls
  | limit
  | offset
  | forUpdate
  | forNoKeyUpdate
  | forShare
  | forKeyShare
  | insertInto
  | overriding
  | defaultValues
  | values
  | onConflict
  | onConstraint
  | doNothing
  | doUpdateSet
  | returning
  | update
  | set
  | deleteFrom
  | usingItems
  | createSequence
  | createTempSequence
  | asType
  | increment
  | incrementBy
  | minValue
  | noMinValue
  | maxValue
  | noMaxValue
  | start
  | startWith
  | cache
  | cycle
  | noCycle
  | ownedBy
deriving DecidableEq, Repr

namespace NodeKind

/-- A clause whose children stand behind its keyword with blanks between them. -/
def spaced (keyword : String) : Layout :=
  { keyword := keyword, separator := " ", parens := .never, glue := .separator }

/-- A clause whose children stand behind its keyword with commas between them. -/
def listed (keyword : String) : Layout :=
  { keyword := keyword, separator := ", ", parens := .never, glue := .separator }

/-- The rule of each kind. -/
def layout : NodeKind → Layout
  | .root => spaced ""
  | .phrase => spaced ""
  | .items => listed ""
  | .group => { spaced "" with parens := .whenMany }
  | .not => spaced "NOT"
  | .and => spaced "AND"
  | .or => spaced "OR"
  | .andNot => spaced "AND NOT"
  | .orNot => spaced "OR NOT"
  | .withCtes => listed "WITH"
  | .withRecursive => listed "WITH RECURSIVE"
  | .select => listed "SELECT"
  | .selectAll => listed "SELECT ALL"
  | .selectDistinct => listed "SELECT DISTINCT"
  | .selectDistinctOn => spaced "SELECT DISTINCT"
  | .distinctOn => { listed "ON" with parens := .always }
  | .fromItems => listed "FROM"
  | .tableSample => spaced "TABLESAMPLE"
  | .join => spaced "JOIN"
  | .innerJoin => spaced "INNER JOIN"
  | .leftJoin => spaced "LEFT JOIN"
  | .rightJoin => spaced "RIGHT JOIN"
  | .fullJoin => spaced "FULL JOIN"
  | .crossJoin => spaced "CROSS JOIN"
  | .naturalJoin => spaced "NATURAL JOIN"
  | .on => spaced "ON"
  | .joinUsing => { listed "USING" with parens := .always }
  | .whereClause => spaced "WHERE"
  | .whereCurrentOf => spaced "WHERE CURRENT OF"
  | .groupBy => listed "GROUP BY"
  | .having => spaced "HAVING"
  | .union => spaced "UNION"
  | .unionAll => spaced "UNION ALL"
  | .unionDistinct => spaced "UNION DISTINCT"
  | .intersect => spaced "INTERSECT"
  | .intersectAll => spaced "INTERSECT ALL"
  | .intersectDistinct => spaced "INTERSECT DISTINCT"
  | .except => spaced "EXCEPT"
  | .exceptAll => spaced "EXCEPT ALL"
  | .exceptDistinct => spaced "EXCEPT DISTINCT"
  | .orderBy => listed "ORDER BY"
  | .nulls => { spaced "" with glue := .space }
  | .limit => spaced "LIMIT"
  | .offset => spaced "OFFSET"
  | .forUpdate => spaced "FOR UPDATE"
  | .forNoKeyUpdate => spaced "FOR NO KEY UPDATE"
  | .forShare => spaced "FOR SHARE"
  | .forKeyShare => spaced "FOR KEY SHARE"
  | .insertInto => spaced "INSERT INTO"
  | .overriding => spaced "OVERRIDING"
  | .defaultValues => spaced "DEFAULT VALUES"
  | .values => listed "VALUES"
  | .onConflict => spaced "ON CONFLICT"
  | .onConstraint => spaced "ON CONSTRAINT"
  | .doNothing => spaced "DO NOTHING"
  | .doUpdateSet => listed "DO UPDATE SET"
  | .returning => listed "RETURNING"
  | .update => spaced "UPDATE"
  | .set => listed "SET"
  | .deleteFrom => spaced "DELETE FROM"
  | .usingItems => listed "USING"
  | .createSequence => spaced "CREATE SEQUENCE"
  | .createTempSequence => spaced "CREATE TEMP SEQUENCE"
  | .asType => spaced "AS"
  | .increment => spaced "INCREMENT"
  | .incrementBy => spaced "INCREMENT BY"
  | .minValue => spaced "MINVALUE"
  | .noMinValue => spaced "NO MINVALUE"
  | .maxValue => spaced "MAXVALUE"
  | .noMaxValue => spaced "NO MAXVALUE"
  | .start => spaced "START"
  | .startWith => spaced "START WITH"
  | .cache => spaced "CACHE"
  | .cycle => spaced "CYCLE"
  | .noCycle => spaced "NO CYCLE"
  | .ownedBy => spaced "OWNED BY"

end NodeKind

end ClauseTree
