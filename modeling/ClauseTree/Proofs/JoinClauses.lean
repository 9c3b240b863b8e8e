import ClauseTree.Proofs.Routing
import ClauseTree.Proofs.StatementPrinting

/-!
# The clauses of a join

A join is written with the conditions and the shared columns that it was given.  SQL
allows one of the two, and neither behind `CROSS JOIN` and `NATURAL JOIN`.

The calls of a query fall into stretches, one for each join with the calls behind it up
to the next one, and the clauses of a join are read off its stretch.  A join counts as
opened until another clause is, whatever its kind and whether or not it has shared
columns.  So the conditions that are continued right behind it become its `ON`.  Apart
from them, a join that is used correctly has no clause that SQL does not allow.
-/

namespace ClauseTree

open Printer

/-! ### Joins with their clauses -/

/-- Whether SQL has a clause for this kind of join to be given. -/
def JoinKind.takesClause : JoinKind → Bool
  | .cross => false
  | .natural => false
  | _ => true

inductive JoinClause where
  /-- `ON conditions` -/
  | on (conditions : Conditions)
  /-- `USING (columns)` -/
  | using (columns : List Token)

/-- The clauses that conditions and shared columns are written as.  There is none without
elements. -/
def joinClauses (on : Conditions) (columns : List Token) : List JoinClause :=
  (if on.isEmpty then [] else [.on on]) ++ (if columns.isEmpty then [] else [.using columns])

/-- One clause at most, and none behind a join that takes none. -/
def JoinKind.Allows (joinKind : JoinKind) (clauses : List JoinClause) : Prop :=
  clauses.length ≤ 1 ∧ (joinKind.takesClause = false → clauses = [])

instance (joinKind : JoinKind) (clauses : List JoinClause) :
    Decidable (joinKind.Allows clauses) :=
  inferInstanceAs (Decidable (_ ∧ _))

private theorem JoinKind.allows_joinClauses_iff (joinKind : JoinKind) (on : Conditions)
    (columns : List Token) :
    joinKind.Allows (joinClauses on columns) ↔
      (on.isEmpty = true ∨ columns = []) ∧
        (joinKind.takesClause = false → on.isEmpty = true ∧ columns = []) := by
  rw [Allows, joinClauses]
  cases on.isEmpty <;> cases columns <;> simp

section

variable (mode : Mode) (embedded : Tree → Writing String)

def JoinClause.print : JoinClause → Writing String
  | .on conditions => spaced "ON" (itemParts mode embedded conditions.items)
  | .using columns =>
      parenthesised "USING" (columns.map fun column => column.print mode embedded)

/-- A clause without elements leaves no trace between its neighbours. -/
theorem phrase_unlessEmpty {α : Type} (front rest : List (Writing String)) (elements : List α)
    (clause : Writing String) :
    phrase (front ++ unlessEmpty elements clause :: rest) =
      phrase (front ++ (if elements.isEmpty then [] else [clause]) ++ rest) := by
  cases elements with
  | nil =>
      funext parameters
      simp [unlessEmpty, phrase, inOrder_append, inOrder, joined, written]
  | cons first others => simp [unlessEmpty]

/-- A join is written as its source with its clauses behind. -/
theorem Join.print_eq_clauses (join : Join) :
    join.print mode embedded =
      spaced join.joinKind.keyword
        (join.source.print mode embedded ::
          (joinClauses join.on join.columns).map fun clause => clause.print mode embedded) := by
  have parts (source on columns : Writing String) :
      phrase [source, unlessEmpty join.on.items on, unlessEmpty join.columns columns] =
        phrase (source :: ((if join.on.items.isEmpty then [] else [on]) ++
          if join.columns.isEmpty then [] else [columns])) := by
    have first := phrase_unlessEmpty [source] [unlessEmpty join.columns columns]
      join.on.items on
    have second := phrase_unlessEmpty
      ([source] ++ if join.on.items.isEmpty then [] else [on]) [] join.columns columns
    rw [List.append_nil] at second
    exact first.trans second
  have clauses : ((joinClauses join.on join.columns).map fun clause =>
      clause.print mode embedded) =
      (if join.on.items.isEmpty then []
        else [spaced "ON" (itemParts mode embedded join.on.items)]) ++
        if join.columns.isEmpty then []
        else [parenthesised "USING"
          (join.columns.map fun column => column.print mode embedded)] := by
    rw [joinClauses, List.map_append, Conditions.isEmpty]
    cases join.on.items.isEmpty <;> cases join.columns.isEmpty <;> rfl
  rw [clauses, spaced, ← parts]
  rfl

end

namespace Select

/-! ### Stretches -/

/-- A join and the calls behind it, up to the next join. -/
structure Stretch where
  joinKind : JoinKind
  source : FromItem
  said : List Call
  /-- None of the calls joins anything. -/
  others : ∀ call ∈ said, call.isJoin = false

/-- The calls up to the next join. -/
def upToJoin (calls : List Call) : List Call :=
  calls.takeWhile fun call => !call.isJoin

private theorem isJoin_of_mem_upToJoin {calls : List Call} :
    ∀ call ∈ upToJoin calls, call.isJoin = false := by
  intro call member
  simpa using List.all_eq_true.mp List.all_takeWhile call member

/-- The stretches of a history, which begins with the earliest call. -/
def stretches : List Call → List Stretch
  | [] => []
  | .join joinKind source :: rest =>
      ⟨joinKind, source, upToJoin rest, isJoin_of_mem_upToJoin⟩ :: stretches rest
  | _ :: rest => stretches rest

def Call.isOn : Call → Bool
  | .on _ => true
  | .onSequence _ => true
  | _ => false

def Call.isUsing : Call → Bool
  | .usingColumns _ => true
  | _ => false

/-- The shared columns that a call gives to a join. -/
def Call.sharedColumns : Call → List Token
  | .usingColumns tokens => tokens
  | _ => []

/-- The conditions of a join after a call.  They are continued only if its clause is the one
that was opened last. -/
def Call.changedOn (opened : Target) (on : Conditions) : Call → Conditions
  | .on conditions => on.push .and conditions
  | .onSequence conditions => on.install conditions
  | .extend connective conditions =>
      if opened = .join then on.push connective conditions else on
  | .activeChange change => if opened = .join then change on else on
  | _ => on

/-- The conditions of a join after several calls. -/
def conditionsAfter : Target → Conditions → List Call → Conditions
  | _, on, [] => on
  | opened, on, call :: rest =>
      conditionsAfter ((call.opens? true).getD opened) (call.changedOn opened on) rest

namespace Stretch

variable (stretch : Stretch)

/-- The conditions that the join is given. -/
def on : Conditions :=
  conditionsAfter .join .empty stretch.said

def columns : List Token :=
  stretch.said.flatMap Call.sharedColumns

def clauses : List JoinClause :=
  joinClauses stretch.on stretch.columns

/-- The conditions that are continued right behind the join, before any clause is opened. -/
def continued : Conditions :=
  (stretch.said.takeWhile fun call => (call.opens? true).isNone).foldl
    (Call.changedOn .join) .empty

/-- No conditions and no shared columns are asked for a join that takes none, and never both
of them. -/
def UsedCorrectly : Prop :=
  (stretch.joinKind.takesClause = false →
      stretch.said.any Call.isOn = false ∧ stretch.said.any Call.isUsing = false) ∧
    (stretch.said.any Call.isOn = false ∨ stretch.said.any Call.isUsing = false)

/-- Nothing is continued right behind the join, or it has room for `ON`. -/
def HasRoom : Prop :=
  stretch.continued.isEmpty = true ∨
    (stretch.joinKind.takesClause = true ∧ stretch.columns = [])

instance : Decidable stretch.UsedCorrectly :=
  inferInstanceAs (Decidable (_ ∧ _))

instance : Decidable stretch.HasRoom :=
  inferInstanceAs (Decidable (_ ∨ _))

/-- The join as the query records it. -/
def join : Join :=
  { joinKind := stretch.joinKind
    source := stretch.source
    on := stretch.on
    columns := stretch.columns }

end Stretch

/-! ### One more call -/

/-- A call that joins nothing changes the last join only. -/
theorem joins_apply_of_last {query : Select} {earlier : List Join} {last : Join}
    (joins : query.joins = earlier ++ [last]) {call : Call} (other : call.isJoin = false) :
    (query.apply call).joins =
      earlier ++
        [{ last with
            on := call.changedOn query.target last.on
            columns := last.columns ++ call.sharedColumns }] := by
  have active (change : Conditions → Conditions) :
      (query.changeActive change).joins =
        earlier ++
          [{ last with on := if query.target = .join then change last.on else last.on }] := by
    cases target : query.target <;> simp [changeActive, target, joins]
  cases call with
  | join joinKind item => cases other
  | on conditions =>
      rw [apply, pushOn, changeOn_joins, joins, Join.modifyLast_concat]
      simp [Call.changedOn, Call.sharedColumns]
  | onSequence conditions =>
      rw [apply, installOn, changeOn_joins, joins, Join.modifyLast_concat]
      simp [Call.changedOn, Call.sharedColumns]
  | usingColumns tokens =>
      rw [apply, addUsing, joins, Join.modifyLast_concat]
      rfl
  | extend connective conditions =>
      rw [apply, extend, active]
      simp [Call.changedOn, Call.sharedColumns]
  | activeChange change =>
      rw [apply, active]
      simp [Call.changedOn, Call.sharedColumns]
  | _ =>
      refine (Eq.refl query.joins).trans ?_
      simpa [Call.changedOn, Call.sharedColumns] using joins

private theorem joins_apply_of_empty {query : Select} (none : query.joins = []) {call : Call}
    (other : call.isJoin = false) : (query.apply call).joins = [] := by
  have step := query.joinsStep_apply call
  have origins := step.origins
  rw [Call.isJoin, Option.isSome_eq_false_iff, Option.isNone_iff_eq_none] at other
  rw [none, other] at origins
  exact List.map_eq_nil_iff.mp origins

/-- Only a call that joins something begins a stretch. -/
theorem stretches_cons_of_other {call : Call} (other : call.isJoin = false)
    (rest : List Call) : stretches (call :: rest) = stretches rest := by
  cases call with
  | join joinKind item => cases other
  | _ => rfl

/-! ### Whole histories -/

/-- The last join goes on with its stretch, and the joins behind it are those of the
stretches to come. -/
theorem joins_run_of_last (calls : List Call) : ∀ {query : Select} {earlier : List Join}
    {last : Join}, query.joins = earlier ++ [last] →
      (query.run calls).joins =
        earlier ++
          { last with
            on := conditionsAfter query.target last.on (upToJoin calls)
            columns := last.columns ++ (upToJoin calls).flatMap Call.sharedColumns } ::
          (stretches calls).map Stretch.join := by
  induction calls with
  | nil =>
      intro query earlier last joins
      simpa [run, upToJoin, conditionsAfter, stretches] using joins
  | cons call rest ih =>
      intro query earlier last joins
      rw [run_cons]
      cases isJoin : call.isJoin with
      | true =>
          cases call with
          | join joinKind item =>
              have added : (query.apply (.join joinKind item)).joins =
                  (earlier ++ [last]) ++ [.ofItem joinKind item] := by
                rw [← joins]
                rfl
              rw [ih added]
              simp [upToJoin, Call.isJoin, Call.joined?, conditionsAfter, stretches, Stretch.join,
                Stretch.on, Stretch.columns, Join.ofItem, apply, addJoin]
          | _ => cases isJoin
      | false =>
          -- The call belongs to the stretch of the last join, and what it changes there is what
          -- `conditionsAfter` takes in first.
          have nonempty : query.joins.isEmpty = false := by simp [joins]
          rw [ih (joins_apply_of_last joins isJoin), target_apply, nonempty,
            stretches_cons_of_other isJoin]
          simp [upToJoin, isJoin, conditionsAfter]

/-- The joins of a query are those of the stretches of its history. -/
theorem Factory.joins_run (factory : Factory) (calls : List Call) :
    (factory.query.run calls).joins = (stretches calls).map Stretch.join := by
  -- Calls in front of the first join keep the joins empty, whatever else they change.
  suffices fromEmpty : ∀ {query : Select}, query.joins = [] →
      (query.run calls).joins = (stretches calls).map Stretch.join from
    fromEmpty factory.joins_query
  induction calls with
  | nil =>
      intro query none
      exact none
  | cons call rest ih =>
      intro query none
      rw [run_cons]
      cases isJoin : call.isJoin with
      | true =>
          cases call with
          | join joinKind item =>
              have added : (query.apply (.join joinKind item)).joins =
                  query.joins ++ [.ofItem joinKind item] := rfl
              rw [none] at added
              rw [joins_run_of_last rest added]
              rfl
          | _ => cases isJoin
      | false =>
          rw [ih (joins_apply_of_empty none isJoin), stretches_cons_of_other isJoin]

/-! ### Room for clauses -/

/-- Only a call for a join, or the join itself, opens its clause. -/
theorem Call.opens?_ne_join {call : Call} (notOn : call.isOn = false)
    (other : call.isJoin = false) : call.opens? true ≠ some .join := by
  cases call with
  | join joinKind item => cases other
  | on conditions => cases notOn
  | onSequence conditions => cases notOn
  | _ => simp [Call.opens?]

private theorem Call.changedOn_of_closed {call : Call} (notOn : call.isOn = false) {opened : Target}
    (closed : opened ≠ .join) (on : Conditions) : call.changedOn opened on = on := by
  cases call with
  | on conditions => cases notOn
  | onSequence conditions => cases notOn
  | extend connective conditions => exact if_neg closed
  | activeChange change => exact if_neg closed
  | _ => rfl

private theorem Call.changedOn_of_opens {call : Call} {clause : Target}
    (opens : call.opens? true = some clause) (notOn : call.isOn = false) (opened : Target)
    (on : Conditions) : call.changedOn opened on = on := by
  cases call with
  | on conditions => cases notOn
  | onSequence conditions => cases notOn
  | extend connective conditions => cases opens
  | activeChange change => cases opens
  | _ => rfl

/-- Once another clause is opened, only a call for the join changes its conditions. -/
theorem conditionsAfter_of_closed : ∀ {said : List Call} {opened : Target}, opened ≠ .join →
    said.any Call.isOn = false → (∀ call ∈ said, call.isJoin = false) → ∀ on : Conditions,
      conditionsAfter opened on said = on
  | [], _, _, _, _, _ => rfl
  | call :: rest, opened, closed, notOn, others, on => by
      rw [List.any_cons, Bool.or_eq_false_iff] at notOn
      have opens := Call.opens?_ne_join notOn.1 (others call List.mem_cons_self)
      have stillClosed : (call.opens? true).getD opened ≠ .join := by
        cases clause : call.opens? true with
        | none => exact closed
        | some next => exact fun same => opens (clause.trans (congrArg some same))
      rw [conditionsAfter, Call.changedOn_of_closed notOn.1 closed]
      exact conditionsAfter_of_closed stillClosed notOn.2
        (fun other member => others other (List.mem_cons_of_mem call member)) on

/-- Without a call for the join, its conditions are those that are continued before another
clause is opened. -/
theorem conditionsAfter_eq_foldl : ∀ {said : List Call}, said.any Call.isOn = false →
    (∀ call ∈ said, call.isJoin = false) → ∀ on : Conditions,
      conditionsAfter .join on said =
        (said.takeWhile fun call => (call.opens? true).isNone).foldl (Call.changedOn .join) on
  | [], _, _, _ => rfl
  | call :: rest, notOn, others, on => by
      rw [List.any_cons, Bool.or_eq_false_iff] at notOn
      have opens := Call.opens?_ne_join notOn.1 (others call List.mem_cons_self)
      have othersBehind := fun other (member : other ∈ rest) =>
        others other (List.mem_cons_of_mem call member)
      cases clause : call.opens? true with
      | none =>
          have ih := conditionsAfter_eq_foldl notOn.2 othersBehind (call.changedOn .join on)
          simpa [conditionsAfter, clause] using ih
      | some next =>
          have closed : next ≠ .join := fun same => opens (clause.trans (congrArg some same))
          have stays := conditionsAfter_of_closed closed notOn.2 othersBehind on
          simpa [conditionsAfter, clause, Call.changedOn_of_opens clause notOn.1] using stays

private theorem sharedColumns_eq_nil {said : List Call} (notUsing : said.any Call.isUsing = false) :
    said.flatMap Call.sharedColumns = [] := by
  rw [List.flatMap_eq_nil_iff]
  intro call member
  have other := List.any_eq_false.mp notUsing call member
  cases call with
  | usingColumns tokens => exact absurd rfl other
  | _ => rfl

/-- A join that is used correctly has clauses that SQL allows exactly if it has room for the
conditions that are continued behind it. -/
theorem Stretch.UsedCorrectly.allows_iff {stretch : Stretch} (correct : stretch.UsedCorrectly) :
    stretch.joinKind.Allows stretch.clauses ↔ stretch.HasRoom := by
  obtain ⟨bare, single⟩ := correct
  rw [clauses, JoinKind.allows_joinClauses_iff, HasRoom]
  cases notOn : stretch.said.any Call.isOn with
  | true =>
      have takes : stretch.joinKind.takesClause = true := by
        cases takes : stretch.joinKind.takesClause with
        | true => rfl
        | false =>
            have none := (bare takes).1
            rw [notOn] at none
            cases none
      have shared : stretch.columns = [] :=
        sharedColumns_eq_nil (single.resolve_left (by simp [notOn]))
      simp [takes, shared]
  | false =>
      have alone : stretch.on = stretch.continued :=
        conditionsAfter_eq_foldl notOn stretch.others .empty
      rw [alone]
      cases takes : stretch.joinKind.takesClause with
      | true => simp
      | false =>
          have shared : stretch.columns = [] := sharedColumns_eq_nil (bare takes).2
          simp [shared]

/-! ### What is written -/

section

variable (mode : Mode) (embedded : Tree → Writing String)

/-- A join with the clauses that its stretch gives it. -/
def Stretch.print (stretch : Stretch) : Writing String :=
  spaced stretch.joinKind.keyword
    (stretch.source.print mode embedded ::
      stretch.clauses.map fun clause => clause.print mode embedded)

/-- A query with its joins written from the stretches of a history. -/
def printStretches (query : Select) (stretches : List Stretch) : Writing String :=
  Printer.clauses
    ([With.print embedded query.withClause] ++
      [query.printColumns mode embedded] ++
      [printSources mode embedded query.sources] ++
      stretches.map (fun stretch => stretch.print mode embedded) ++
      [query.filter.print mode embedded "WHERE"] ++
      [printListed mode embedded "GROUP BY" query.groupBy] ++
      [query.having.print mode embedded "HAVING"] ++
      query.setOperations.map (printSetOperation embedded) ++
      [query.printOrderBy mode embedded] ++
      [printOptional mode embedded "LIMIT" query.limit] ++
      [printOptional mode embedded "OFFSET" query.offset] ++
      [query.printLocking mode embedded])

/-- A recorded query prints stretch by stretch: what stands before the first join, then each
join with the calls up to the next one. -/
theorem Factory.print_run (factory : Factory) (calls : List Call) :
    (factory.query.run calls).print mode embedded =
      (factory.query.run calls).printStretches mode embedded (stretches calls) := by
  have joins : ((factory.query.run calls).joins.map fun join => join.print mode embedded) =
      (stretches calls).map fun stretch => stretch.print mode embedded := by
    rw [factory.joins_run, List.map_map]
    refine List.map_congr_left fun stretch _ => ?_
    exact stretch.join.print_eq_clauses mode embedded
  rw [print, printStretches, joins]

end

/-- A query is written with the clauses that the calls behind each join give it, in its literal
text and in its prepared text.  If the joins are used correctly, the clauses of a join are
allowed exactly if nothing is continued right behind it or it has room for `ON`. -/
theorem Factory.allows_clauses (factory : Factory) (calls : List Call)
    (correct : ∀ stretch ∈ stretches calls, stretch.UsedCorrectly) (origins : Origins) :
    let query := factory.query.run calls
    let printed (mode : Mode) := query.printStretches mode (origins.print mode) (stretches calls)
    (Statement.select query).sql = (printed .literal .empty).1 ∧
      (∀ style, (Statement.select query).prepared style =
        ⟨(printed (.prepared style) .empty).1, (printed (.prepared style) .empty).2⟩) ∧
      ∀ stretch ∈ stretches calls,
        (stretch.joinKind.Allows stretch.clauses ↔ stretch.HasRoom) := by
  intro query printed
  have same (mode : Mode) : (Statement.select query).printed origins mode = printed mode :=
    factory.print_run mode (origins.print mode) calls
  have output := (Statement.select query).output_eq_printed origins
  simp only [same] at output
  exact ⟨output.1, output.2, fun stretch member => (correct stretch member).allows_iff⟩

/-- Conditions that are continued behind another clause leave the joins alone. -/
theorem Factory.allows_clauses_reopened :
    let calls : List Call :=
      [.sources [.ofToken (.name "a")], .join .cross (.ofToken (.name "b")),
        .filter (.comparison (.name "x") (.name "=") (.name "1")),
        .extend .and (.comparison (.name "y") (.name "=") (.name "2"))]
    let query := (Factory.columns .plain [.name "*"]).query.run calls
    (∀ stretch ∈ stretches calls, stretch.UsedCorrectly) ∧
      (∀ stretch ∈ stretches calls, stretch.joinKind.Allows stretch.clauses) ∧
      (Statement.select query).sql = "SELECT * FROM a CROSS JOIN b WHERE x = 1 AND y = 2" := by
  intro calls query
  have correct : ∀ stretch ∈ stretches calls, stretch.UsedCorrectly := by decide
  have room : ∀ stretch ∈ stretches calls, stretch.HasRoom := by decide
  have allows :=
    ((Factory.columns .plain [.name "*"]).allows_clauses calls correct default).2.2
  refine ⟨correct, fun stretch member => (allows stretch member).mpr (room stretch member), ?_⟩
  decide

/-- Conditions that are continued right behind a join become its `ON`, even if it takes no
clause or has shared columns. -/
theorem Factory.allows_clauses_strayed :
    let compared (name value : String) :=
      Conditions.comparison (.name name) (.name "=") (.name value)
    let crossed : List Call :=
      [.sources [.ofToken (.name "a")], .filter (compared "x" "1"),
        .join .cross (.ofToken (.name "b")), .extend .and (compared "y" "2")]
    let shared : List Call :=
      [.sources [.ofToken (.name "a")], .filter (compared "x" "1"),
        .join .join (.ofToken (.name "b")), .usingColumns [.name "id"],
        .extend .and (compared "y" "2")]
    let query := (Factory.columns .plain [.name "*"]).query
    (∀ stretch ∈ stretches crossed ++ stretches shared,
        stretch.UsedCorrectly ∧ ¬ stretch.joinKind.Allows stretch.clauses) ∧
      (Statement.select (query.run crossed)).sql =
        "SELECT * FROM a CROSS JOIN b ON y = 2 WHERE x = 1" ∧
      (Statement.select (query.run shared)).sql =
        "SELECT * FROM a JOIN b ON y = 2 USING (id) WHERE x = 1" := by
  decide

end Select

end ClauseTree
