import ClauseTree.Statement.Clause

/-!
# Row sources

The items of a `FROM` list and the joins behind it.
-/

namespace ClauseTree

/-- `TABLESAMPLE method(argument)`, with a seed or without. -/
structure TableSample where
  method : Token
  seed : Option Token
deriving BEq

/-- One source of rows. -/
structure FromItem where
  /-- Whether inheriting tables are left out. -/
  only : Bool
  source : Token
  sample : Option TableSample
deriving BEq

namespace FromItem

/-- A source by itself. -/
def ofToken (source : Token) : FromItem :=
  { only := false, source := source, sample := none }

/-- `ONLY source` -/
def onlyFrom (source : Token) : FromItem :=
  { ofToken source with only := true }

/-- Take a sample of the rows.  A seed given before is dropped. -/
def tableSample (item : FromItem) (method : String) (argument : Token) : FromItem :=
  { item with sample := some { method := .call method argument, seed := none } }

/-- `REPEATABLE(seed)` behind a sample; without a sample nothing happens. -/
def repeatable (item : FromItem) (seed : Token) : FromItem :=
  { item with
    sample := item.sample.map fun sample =>
      { sample with seed := some (.call "REPEATABLE" seed) } }

/-- Write a sample. -/
def sampleSteps (item : FromItem) : List Step :=
  match item.sample with
  | none => []
  | some sample =>
      [.start .tableSample, .leaf sample.method] ++ (sample.seed.map Step.leaf).toList ++ [.close]

/-- Write a source. -/
def steps (item : FromItem) : List Step :=
  [.start .phrase] ++
    (if item.only then [.leaf (.name "ONLY")] else []) ++
    [.leaf item.source] ++
    item.sampleSteps ++
    [.close]

/-- Write a `FROM` clause, or nothing when there are no sources. -/
def clauseSteps (items : List FromItem) : List Step :=
  if items.isEmpty then [] else [.start .fromItems] ++ items.flatMap steps ++ [.close]

end FromItem

/-- How a source is joined. -/
inductive JoinKind where
  | join
  | inner
  | left
  | right
  | full
  | cross
  | natural
deriving DecidableEq, Repr

/-- The node of a kind of join. -/
def JoinKind.kind : JoinKind → NodeKind
  | .join => .join
  | .inner => .innerJoin
  | .left => .leftJoin
  | .right => .rightJoin
  | .full => .fullJoin
  | .cross => .crossJoin
  | .natural => .naturalJoin

/-- A joined source with its conditions and its shared columns. -/
structure Join where
  joinKind : JoinKind
  source : FromItem
  on : Conditions
  columns : List Token
deriving BEq

namespace Join

/-- A join without conditions and columns. -/
def ofItem (joinKind : JoinKind) (source : FromItem) : Join :=
  { joinKind := joinKind, source := source, on := .empty, columns := [] }

/-- Write a join: the source, then `ON`, then `USING`. -/
def steps (join : Join) : List Step :=
  [.start join.joinKind.kind] ++
    join.source.steps ++
    join.on.clauseSteps .on ++
    listSteps .joinUsing join.columns ++
    [.close]

/-- Change the last of several joins. -/
def modifyLast (change : Join → Join) : List Join → List Join
  | [] => []
  | [join] => [change join]
  | join :: rest => join :: modifyLast change rest

/-- The joins before the last one stay. -/
@[simp] theorem modifyLast_concat (change : Join → Join) (earlier : List Join)
    (last : Join) : modifyLast change (earlier ++ [last]) = earlier ++ [change last] := by
  induction earlier with
  | nil => rfl
  | cons join earlier ih =>
      cases earlier with
      | nil => rfl
      | cons next earlier => exact congrArg (join :: ·) ih

end Join

end ClauseTree
