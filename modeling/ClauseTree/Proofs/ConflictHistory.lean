import ClauseTree.Proofs.ClauseOrder
import ClauseTree.Proofs.StatementPrinting
import Mathlib.Data.List.DropRight

/-!
# The history of a conflict clause

The calls about conflicts come in any order and any number, and all of them write into one
record that the first of them makes.  Doing nothing and assigning take each other's place
there, and the conditions have one slot with two meanings: they filter the update if there is
one, and otherwise they belong to the columns of the target.

Here the clause is read off the calls themselves.  The last call that names a target counts,
the assignments are those behind the last call to do nothing, and the conditions are all that
were ever given.  One call keeps the record in step with the calls so far, so the record of a
whole history is what the history says, and the insertion is written as if its other clauses
had been recorded alone.
-/

namespace ClauseTree

open Printer

namespace Insert

/-- An insertion as it is begun, with or without named queries in front. -/
def begun (clause : Option With) (table : Token) : Insert :=
  { into table with withClause := clause }

/-! ### What calls say -/

/-- The target that a call names. -/
def Call.target? : Call → Option ConflictTarget
  | .conflictOn target => some target
  | _ => none

def Call.isDoNothing : Call → Bool
  | .doNothing => true
  | _ => false

/-- The assignment that a call makes for the case of a conflict. -/
def Call.assignment? : Call → Option Assignment
  | .doUpdateSet column value => some { target := column, value := value }
  | .doUpdateSetExcluded column =>
      some { target := .name column, value := .name ("EXCLUDED." ++ column) }
  | _ => none

/-- The term that a call adds to the conditions.  Empty conditions add none. -/
def Call.term? : Call → Option Term
  | .doUpdateWhere conditions =>
      if conditions.isEmpty then none else some conditions.asTerm
  | _ => none

/-- A comparison is one term. -/
example (left operator right : Token) :
    (Call.doUpdateWhere (.comparison left operator right)).term? =
      some (.predicate [left, operator, right]) :=
  rfl

/-- The target that was named last; without any, all conflicts are handled. -/
def lastTarget (calls : List Call) : ConflictTarget :=
  (calls.filterMap Call.target?).getLast?.getD .any

/-- The assignments behind the last call to do nothing. -/
def standingAssignments (calls : List Call) : List Assignment :=
  (calls.rtakeWhile fun call => !call.isDoNothing).filterMap Call.assignment?

/-- The terms of all conditions. -/
def conflictTerms (calls : List Call) : List Term :=
  calls.filterMap Call.term?

/-- Terms with `AND` between them. -/
def conjunction : List Term → Conditions
  | [] => .empty
  | first :: rest => ⟨⟨.lead, first⟩ :: rest.map fun term => ⟨.joined .and, term⟩⟩

/-- The record of what calls say. -/
def conflictSaid (calls : List Call) : OnConflict :=
  { target := lastTarget calls
    doNothing := calls.any Call.isDoNothing && (standingAssignments calls).isEmpty
    assignments := standingAssignments calls
    filter := conjunction (conflictTerms calls) }

/-! ### One more call -/

private theorem lastTarget_concat (calls : List Call) (call : Call) :
    lastTarget (calls ++ [call]) = call.target?.getD (lastTarget calls) := by
  rw [lastTarget, List.filterMap_append]
  cases target : call.target? with
  | none =>
      rw [List.filterMap_cons_none target, List.filterMap_nil, List.append_nil]
      rfl
  | some named =>
      rw [List.filterMap_cons_some target, List.filterMap_nil, List.getLast?_concat]
      rfl

private theorem standingAssignments_concat (calls : List Call) (call : Call) :
    standingAssignments (calls ++ [call]) =
      if call.isDoNothing then [] else standingAssignments calls ++ call.assignment?.toList := by
  rw [standingAssignments, List.rtakeWhile_concat]
  cases call.isDoNothing with
  | true => rfl
  | false =>
      rw [if_pos (by rfl), List.filterMap_append]
      cases assignment : call.assignment? with
      | none =>
          rw [List.filterMap_cons_none assignment]
          rfl
      | some made =>
          rw [List.filterMap_cons_some assignment]
          rfl

private theorem conflictTerms_concat (calls : List Call) (call : Call) :
    conflictTerms (calls ++ [call]) = conflictTerms calls ++ call.term?.toList := by
  rw [conflictTerms, List.filterMap_append]
  cases term : call.term? with
  | none =>
      rw [List.filterMap_cons_none term]
      rfl
  | some added =>
      rw [List.filterMap_cons_some term]
      rfl

/-- Pushing conditions adds their term behind the others. -/
theorem push_conjunction (terms : List Term) (conditions : Conditions) :
    (conjunction terms).push .and conditions =
      conjunction (terms ++ (Call.doUpdateWhere conditions).term?.toList) := by
  rw [Call.term?]
  by_cases empty : conditions.isEmpty = true
  · rw [Conditions.push, if_pos empty, if_pos empty, Option.toList_none, List.append_nil]
  · rw [Conditions.push, if_neg empty, if_neg empty, Option.toList_some]
    cases terms with
    | nil => rfl
    | cons first rest => simp [conjunction, Conditions.isEmpty]

/-- What one more call adds to the record. -/
theorem conflictSaid_concat (calls : List Call) (call : Call) :
    conflictSaid (calls ++ [call]) =
      let assignments :=
        if call.isDoNothing then [] else standingAssignments calls ++ call.assignment?.toList
      { target := call.target?.getD (lastTarget calls)
        doNothing := (calls.any Call.isDoNothing || call.isDoNothing) && assignments.isEmpty
        assignments := assignments
        filter := conjunction (conflictTerms calls ++ call.term?.toList) } := by
  rw [conflictSaid, lastTarget_concat, standingAssignments_concat, conflictTerms_concat,
    List.any_append, List.any_cons, List.any_nil, Bool.or_false]

/-- Calls about other clauses say nothing about conflicts. -/
theorem conflictSaid_concat_of_other {call : Call} (other : call.isConflict = false)
    (calls : List Call) : conflictSaid (calls ++ [call]) = conflictSaid calls := by
  rw [conflictSaid_concat]
  cases call with
  | conflictOn target => cases other
  | doNothing => cases other
  | doUpdateSet column value => cases other
  | doUpdateSetExcluded column => cases other
  | doUpdateWhere conditions => cases other
  | _ =>
      simp only [Call.target?, Call.isDoNothing, Call.assignment?, Call.term?, Option.getD_none,
        Option.toList_none, List.append_nil, Bool.or_false]
      rfl

/-- Calls about other clauses leave the record alone, and it does not matter to them. -/
theorem apply_of_other {call : Call} (other : call.isConflict = false) (insert : Insert)
    (onConflict : Option OnConflict) :
    apply { insert with onConflict := onConflict } call =
      { insert.apply call with onConflict := onConflict } := by
  cases call with
  | values row =>
      obtain ⟨_, _, _, _, source, _, _⟩ := insert
      cases source <;> rfl
  | conflictOn target => cases other
  | doNothing => cases other
  | doUpdateSet column value => cases other
  | doUpdateSetExcluded column => cases other
  | doUpdateWhere conditions => cases other
  | _ => rfl

/-- Calls about conflicts change nothing but the record. -/
theorem apply_of_conflict {call : Call} (about : call.isConflict = true) (insert : Insert) :
    insert.apply call = { insert with onConflict := (insert.apply call).onConflict } := by
  cases call with
  | conflictOn target => rfl
  | doNothing => rfl
  | doUpdateSet column value => rfl
  | doUpdateSetExcluded column => rfl
  | doUpdateWhere conditions => rfl
  | _ => cases about

/-- A call keeps the record in step with what has been said. -/
theorem conflict_apply {insert : Insert} {history : List Call}
    (inStep : insert.conflict = conflictSaid history) (call : Call) :
    (insert.apply call).conflict = conflictSaid (history ++ [call]) := by
  have changed (change : OnConflict → OnConflict) :
      (insert.changeConflict change).conflict = change (conflictSaid history) :=
    congrArg change inStep
  -- A call about another clause changes neither the record nor what has been said.
  have left (other : call.isConflict = false) :
      (insert.apply call).conflict = conflictSaid (history ++ [call]) := by
    have frame : insert.apply call = { insert.apply call with onConflict := insert.onConflict } :=
      apply_of_other other insert insert.onConflict
    have kept : (insert.apply call).conflict = insert.conflict :=
      (congrArg conflict frame).trans rfl
    rw [kept, inStep, conflictSaid_concat_of_other other]
  cases call with
  | conflictOn target =>
      refine (changed _).trans ?_
      rw [conflictSaid_concat]
      simp [conflictSaid, Call.target?, Call.isDoNothing, Call.assignment?, Call.term?]
  | doNothing =>
      refine (changed _).trans ?_
      rw [conflictSaid_concat]
      simp [conflictSaid, Call.target?, Call.isDoNothing, Call.term?]
  | doUpdateSet column value =>
      refine (changed _).trans ?_
      rw [conflictSaid_concat]
      simp [conflictSaid, Call.target?, Call.isDoNothing, Call.assignment?, Call.term?]
  | doUpdateSetExcluded column =>
      refine (changed _).trans ?_
      rw [conflictSaid_concat]
      simp [conflictSaid, Call.target?, Call.isDoNothing, Call.assignment?, Call.term?]
  | doUpdateWhere conditions =>
      refine (changed _).trans ?_
      rw [conflictSaid_concat, conflictSaid, push_conjunction]
      simp [Call.target?, Call.isDoNothing, Call.assignment?]
  | _ => exact left rfl

/-! ### Whole histories -/

theorem run_concat (insert : Insert) (calls : List Call) (call : Call) :
    recorder.run insert (calls ++ [call]) = (recorder.run insert calls).apply call := by
  rw [Recorder.run, List.foldl_concat]
  rfl

/-- The recorded conflict clause is the one the calls say: the last target, the assignments
that stand and all the conditions. -/
theorem conflict_run (clause : Option With) (table : Token) (calls : List Call) :
    (recorder.run (begun clause table) calls).conflict = conflictSaid calls := by
  induction calls using List.reverseRecOn with
  | nil => rfl
  | append_singleton calls call ih =>
      rw [run_concat]
      exact conflict_apply ih call

/-- There is a record as soon as a call is about conflicts, and it says what the calls
say. -/
theorem onConflict_run (clause : Option With) (table : Token) (calls : List Call) :
    (recorder.run (begun clause table) calls).onConflict =
      if calls.any Call.isConflict then some (conflictSaid calls) else none := by
  have present : (recorder.run (begun clause table) calls).onConflict.isSome =
      calls.any Call.isConflict :=
    (isSome_onConflict_run (begun clause table) calls).trans (Bool.false_or _)
  have record := conflict_run clause table calls
  rw [conflict] at record
  cases made : (recorder.run (begun clause table) calls).onConflict with
  | none =>
      rw [made, Option.isSome_none] at present
      rw [← present, if_neg Bool.false_ne_true]
  | some conflict =>
      rw [made, Option.isSome_some] at present
      rw [made, Option.getD_some] at record
      rw [← present, if_pos rfl, record]

/-- The calls about other clauses. -/
def elsewhere (calls : List Call) : List Call :=
  calls.filter fun call => !call.isConflict

private theorem elsewhere_concat (calls : List Call) (call : Call) :
    elsewhere (calls ++ [call]) =
      elsewhere calls ++ if call.isConflict then [] else [call] := by
  rw [elsewhere, List.filter_append]
  cases about : call.isConflict with
  | true =>
      rw [List.filter_cons_of_neg (by simp [about])]
      rfl
  | false =>
      rw [List.filter_cons_of_pos (by simp [about])]
      rfl

/-- Calls about conflicts leave no trace in the other clauses. -/
theorem run_eq_run_elsewhere (insert : Insert) (calls : List Call) :
    ∃ onConflict, recorder.run insert calls =
      { recorder.run insert (elsewhere calls) with onConflict := onConflict } := by
  induction calls using List.reverseRecOn with
  | nil => exact ⟨insert.onConflict, rfl⟩
  | append_singleton calls call ih =>
      obtain ⟨onConflict, frame⟩ := ih
      rw [run_concat, elsewhere_concat, frame]
      cases about : call.isConflict with
      | true =>
          rw [if_pos rfl, List.append_nil]
          exact ⟨_, apply_of_conflict about _⟩
      | false =>
          rw [if_neg Bool.false_ne_true, run_concat]
          exact ⟨onConflict, apply_of_other about _ onConflict⟩

/-! ### What is printed -/

section

variable (mode : Mode) (embedded : Tree → Writing String)

/-- Conditions behind `WHERE`. -/
def printConditions : List Term → Writing String
  | [] => pure ""
  | first :: rest =>
      spaced "WHERE"
        (first.print mode embedded ::
          rest.map fun term => spaced "AND" [term.print mode embedded])

/-- The target that was named last.  Without an update the conditions belong to its
columns, if it has any. -/
def printTarget (calls : List Call) : List (Writing String) :=
  match lastTarget calls with
  | .any => []
  | .columns tokens =>
      [(Token.list tokens).print mode embedded,
        if (standingAssignments calls).isEmpty then
          printConditions mode embedded (conflictTerms calls)
        else pure ""]
  | .onConstraint name => [spaced "ON CONSTRAINT" [name.print mode embedded]]

/-- The assignments that stand, and the conditions behind them; without any, nothing is done
if a call said so. -/
def printAction (calls : List Call) : List (Writing String) :=
  if (standingAssignments calls).isEmpty then
    [if calls.any Call.isDoNothing then pure "DO NOTHING" else pure ""]
  else
    [printAssignments mode embedded "DO UPDATE SET" (standingAssignments calls),
      printConditions mode embedded (conflictTerms calls)]

/-- The conflict clause that calls ask for, if any of them is about conflicts. -/
def printSaid (calls : List Call) : Writing String :=
  if calls.any Call.isConflict then
    spaced "ON CONFLICT" (printTarget mode embedded calls ++ printAction mode embedded calls)
  else pure ""

/-- An insertion from the calls that record it: the conflict clause as they ask for it,
and the other clauses as if nothing had been said of conflicts. -/
def printHistory (clause : Option With) (table : Token) (calls : List Call) : Writing String :=
  let insert := recorder.run (begun clause table) (elsewhere calls)
  Printer.clauses
    ([With.print embedded insert.withClause] ++
      [spaced "INSERT INTO"
        (insert.table.print mode embedded ::
          if insert.columns.isEmpty then []
          else [(Token.list insert.columns).print mode embedded])] ++
      [insert.printOverriding] ++
      [insert.printSource mode embedded] ++
      [printSaid mode embedded calls] ++
      [printListed mode embedded "RETURNING" insert.returning])

private theorem itemParts_joined (terms : List Term) :
    itemParts mode embedded (terms.map fun term => ⟨.joined .and, term⟩) =
      terms.map fun term => spaced "AND" [term.print mode embedded] := by
  induction terms with
  | nil => rfl
  | cons term rest ih =>
      rw [List.map_cons, itemParts, ih, Item.print]
      rfl

private theorem print_conjunction (terms : List Term) :
    (conjunction terms).print mode embedded "WHERE" = printConditions mode embedded terms := by
  cases terms with
  | nil => rfl
  | cons first rest =>
      rw [conjunction, Conditions.print, itemParts, Item.print, itemParts_joined]
      rfl

private theorem targetParts_conflictSaid (calls : List Call) :
    (conflictSaid calls).targetParts mode embedded = printTarget mode embedded calls := by
  rw [OnConflict.targetParts, printTarget, conflictSaid]
  cases lastTarget calls with
  | any => rfl
  | columns tokens => rw [print_conjunction]
  | onConstraint name => rfl

private theorem actionParts_conflictSaid (calls : List Call) :
    (conflictSaid calls).actionParts mode embedded = printAction mode embedded calls := by
  rw [OnConflict.actionParts, printAction, conflictSaid, print_conjunction]
  cases standing : (standingAssignments calls).isEmpty with
  | true => rw [Bool.and_true]
  | false => rfl

/-- The recorded conflict clause prints as the text told from the calls. -/
theorem printConflict_run (clause : Option With) (table : Token) (calls : List Call) :
    (recorder.run (begun clause table) calls).printConflict mode embedded =
      printSaid mode embedded calls := by
  rw [printConflict, onConflict_run, printSaid]
  cases calls.any Call.isConflict with
  | true =>
      rw [← targetParts_conflictSaid, ← actionParts_conflictSaid]
      rfl
  | false => rfl

/-- The recorded insertion prints as the text told from its history. -/
theorem print_run (clause : Option With) (table : Token) (calls : List Call) :
    (recorder.run (begun clause table) calls).print mode embedded =
      printHistory mode embedded clause table calls := by
  obtain ⟨onConflict, frame⟩ := run_eq_run_elsewhere (begun clause table) calls
  rw [print, printConflict_run, frame]
  rfl

end

/-- The conflict clause follows the calls.  An insertion recorded by any calls is written as
they ask: its literal text, and its prepared text with the parameters. -/
theorem output_eq_printHistory (clause : Option With) (table : Token) (calls : List Call)
    (origins : Origins) :
    let statement := Statement.insert (recorder.run (begun clause table) calls)
    let printed (mode : Mode) := printHistory mode (origins.print mode) clause table calls
    statement.sql = (printed .literal .empty).1 ∧
      ∀ style, statement.prepared style =
        ⟨(printed (.prepared style) .empty).1, (printed (.prepared style) .empty).2⟩ := by
  intro statement printed
  have same (mode : Mode) : statement.printed origins mode = printed mode :=
    print_run mode (origins.print mode) clause table calls
  have output := statement.output_eq_printed origins
  simp only [same] at output
  exact output

/-- Conditions of an update that does not come about restrict the index instead. -/
example :
    (printSaid .literal (Tree.walk .literal)
      [.doUpdateSetExcluded "n", .doUpdateWhere (.comparison (.name "a") (.name "=") (.name "b")),
        .doNothing, .conflictOn (.columns [.name "id"])] .empty).1 =
      "ON CONFLICT (id) WHERE a = b DO NOTHING" := by
  decide

end Insert

end ClauseTree
