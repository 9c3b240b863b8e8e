import ClauseTree.Statement
import Mathlib.Data.List.Basic

/-!
# Where conditions go

A query keeps conditions in `WHERE`, in `HAVING` and in the `ON` of each join, and a
condition that continues others goes to one of these clauses.  Which one depends on
the calls before it, through a target that the query carries along.

Here the clause is read off the calls alone, the latest first.  Two laws say what one
call does: how it moves the target, and that it either adds one join behind the others
or changes the last one.  What holds of a whole history follows by induction on it.
-/

namespace ClauseTree

/-- What joins one source to the sources before it, without the conditions. -/
def Join.origin (join : Join) : JoinKind × FromItem :=
  (join.joinKind, join.source)

namespace Select

/-! ### Histories -/

/-- How a query is begun. -/
inductive Factory where
  | empty
  | columns (quantifier : Quantifier) (tokens : List Token)
  /-- Behind named queries. -/
  | behind (clause : With) (tokens : List Token)

/-- The query as it is begun. -/
def Factory.query : Factory → Select
  | .empty => .empty
  | .columns quantifier tokens => (ofColumns tokens).quantify quantifier
  | .behind clause tokens => clause.select tokens

/-- The join that a call adds. -/
def Call.joined? : Call → Option (JoinKind × FromItem)
  | .join joinKind item => some (joinKind, item)
  | _ => none

def Call.isJoin (call : Call) : Bool :=
  call.joined?.isSome

/-- The clause that a call opens, depending on whether anything was joined before it. -/
def Call.opens? (joined : Bool) : Call → Option Target
  | .filter _ => some .where
  | .filterSequence _ => some .where
  | .filterChange _ => some .where
  | .having _ => some .having
  | .havingSequence _ => some .having
  | .join _ _ => some .join
  | .on _ => if joined then some .join else none
  | .onSequence _ => if joined then some .join else none
  | _ => none

/-- The clause that was opened last, the latest call standing first.  As long as none
was opened it is `WHERE`. -/
def lastOpened : List Call → Target
  | [] => .where
  | call :: earlier => (call.opens? (earlier.any Call.isJoin)).getD (lastOpened earlier)

/-! ### What is said about them -/

/-- Conditions are pushed onto one clause, and nothing else of the query changes.  The
clause of a join is the `ON` of the last one. -/
def Appends (clause : Target) (connective : Connective) (conditions : Conditions)
    (query after : Select) : Prop :=
  match clause with
  | .where => after = { query with filter := query.filter.push connective conditions }
  | .having => after = { query with having := query.having.push connective conditions }
  | .join =>
      ∃ earlier last, query.joins = earlier ++ [last] ∧
        after =
          { query with
            joins := earlier ++ [{ last with on := last.on.push connective conditions }] }

/-- The query that some calls lead to sends conditions where these calls say. -/
structure Routed (calls : List Call) (query : Select) : Prop where
  /-- Continued conditions go to the clause that was opened last, and only there. -/
  continued : ∀ connective conditions,
    Appends (lastOpened calls.reverse) connective conditions query
      (query.apply (.extend connective conditions))
  /-- The joins are those of the calls, in their order, so the last is the latest. -/
  joined : query.joins.map Join.origin = calls.filterMap Call.joined?
  /-- Without a join, what is said about one changes nothing at all. -/
  ignored : calls.any Call.isJoin = false →
    (∀ conditions, query.apply (.on conditions) = query) ∧
    (∀ conditions, query.apply (.onSequence conditions) = query) ∧
    (∀ tokens, query.apply (.usingColumns tokens) = query)
  /-- A join with another one behind it is never changed again. -/
  settled : ∀ later index, index + 1 < query.joins.length →
    (query.run later).joins[index]? = query.joins[index]?
  /-- A join is continued only where there is one. -/
  anchored : query.target = .join → query.joins ≠ []

/-! ### One call -/

/-- An ON changes the last join and no other. -/
theorem changeOn_joins (query : Select) (change : Conditions → Conditions) :
    (query.changeOn change).joins =
      Join.modifyLast (fun join => { join with on := change join.on }) query.joins := by
  unfold changeOn
  split
  · rename_i none
    rw [List.isEmpty_iff.mp none]
    rfl
  · rfl

private theorem changeOn_target (query : Select) (change : Conditions → Conditions) :
    (query.changeOn change).target =
      if query.joins.isEmpty then query.target else .join := by
  unfold changeOn
  split <;> rfl

private theorem changeActive_target (query : Select) (change : Conditions → Conditions) :
    (query.changeActive change).target = query.target := by
  unfold changeActive
  split
  · rfl
  · rfl
  · split <;> rfl

/-- A call moves the target to the clause that it opens, if any. -/
theorem target_apply (query : Select) (call : Call) :
    (query.apply call).target =
      (call.opens? (!query.joins.isEmpty)).getD query.target := by
  cases call with
  | on conditions =>
      rw [apply, pushOn, changeOn_target, Call.opens?]
      cases query.joins.isEmpty <;> rfl
  | onSequence conditions =>
      rw [apply, installOn, changeOn_target, Call.opens?]
      cases query.joins.isEmpty <;> rfl
  | extend connective conditions => exact query.changeActive_target _
  | activeChange change => exact query.changeActive_target change
  | _ => rfl

/-- What a call may do to the joins: nothing, a change of the last one in anything but
what it joins, or one more behind them. -/
inductive JoinsStep : Option (JoinKind × FromItem) → List Join → List Join → Prop where
  | kept (joins : List Join) : JoinsStep none joins joins
  | changed (earlier : List Join) {last after : Join} (origin : after.origin = last.origin) :
      JoinsStep none (earlier ++ [last]) (earlier ++ [after])
  | added (joins : List Join) (join : Join) :
      JoinsStep (some join.origin) joins (joins ++ [join])

/-- A change of the last join in anything but what it joins is such a step, and so it is when
there is no join to change. -/
theorem JoinsStep.modifyLast {change : Join → Join} (joins : List Join)
    (origin : ∀ join, (change join).origin = join.origin) :
    JoinsStep none joins (Join.modifyLast change joins) := by
  rcases List.eq_nil_or_concat' joins with rfl | ⟨earlier, last, rfl⟩
  · exact .kept []
  · rw [Join.modifyLast_concat]
    exact .changed earlier (origin last)

/-- A continuation changes the conditions of the last join at most. -/
theorem JoinsStep.changeActive (query : Select) (change : Conditions → Conditions) :
    JoinsStep none query.joins (query.changeActive change).joins := by
  unfold Select.changeActive
  split
  · exact .kept _
  · exact .kept _
  · split
    · exact .kept _
    · exact .modifyLast _ fun _ => rfl

/-- Every call takes one of these steps. -/
theorem joinsStep_apply (query : Select) (call : Call) :
    JoinsStep call.joined? query.joins (query.apply call).joins := by
  cases call with
  | join joinKind item => exact .added query.joins (.ofItem joinKind item)
  | on conditions =>
      rw [apply, pushOn, changeOn_joins]
      exact .modifyLast _ fun _ => rfl
  | onSequence conditions =>
      rw [apply, installOn, changeOn_joins]
      exact .modifyLast _ fun _ => rfl
  | usingColumns tokens => exact .modifyLast _ fun _ => rfl
  | extend connective conditions => exact .changeActive query _
  | activeChange change => exact .changeActive query change
  | _ => exact .kept _

/-- A step adds to the origins what the call joins. -/
theorem JoinsStep.origins {joined : Option (JoinKind × FromItem)} {before after : List Join}
    (step : JoinsStep joined before after) :
    after.map Join.origin = before.map Join.origin ++ joined.toList := by
  cases step with
  | kept => simp
  | changed earlier origin => simp [origin]
  | added join => simp

/-- A step keeps every join that has another one behind it. -/
theorem JoinsStep.settled {joined : Option (JoinKind × FromItem)} {before after : List Join}
    (step : JoinsStep joined before after) {index : Nat} (behind : index + 1 < before.length) :
    after[index]? = before[index]? ∧ index + 1 < after.length := by
  cases step with
  | kept => exact ⟨rfl, behind⟩
  | changed earlier =>
      rw [List.length_append] at behind ⊢
      have inside : index < earlier.length := Nat.lt_of_succ_lt_succ behind
      rw [List.getElem?_append_left inside, List.getElem?_append_left inside]
      exact ⟨rfl, behind⟩
  | added join =>
      have inside : index < before.length := Nat.lt_of_succ_lt behind
      rw [List.getElem?_append_left inside, List.length_append]
      exact ⟨rfl, Nat.lt_add_right 1 behind⟩

/-! ### Whole histories -/

theorem run_cons (query : Select) (call : Call) (rest : List Call) :
    query.run (call :: rest) = (query.apply call).run rest := rfl

/-- The last call of a history acts on what the calls before it leave. -/
@[simp] theorem run_concat (query : Select) (calls : List Call) (call : Call) :
    query.run (calls ++ [call]) = (query.run calls).apply call := by
  simp [run]

/-- A new query has no join. -/
theorem Factory.joins_query (factory : Factory) : factory.query.joins = [] := by
  cases factory <;> rfl

private theorem Factory.target_query (factory : Factory) : factory.query.target = .where := by
  cases factory <;> rfl

/-- The joins of a query are those of its calls. -/
theorem origins_run (query : Select) (calls : List Call) :
    (query.run calls).joins.map Join.origin =
      query.joins.map Join.origin ++ calls.filterMap Call.joined? := by
  induction calls generalizing query with
  | nil => exact (List.append_nil _).symm
  | cons call rest ih =>
      have first := (query.joinsStep_apply call).origins
      have others := ih (query.apply call)
      rw [first, List.append_assoc] at others
      rw [run_cons, others, List.filterMap_cons]
      cases call.joined? <;> rfl

/-- A join with another one behind it is never changed again. -/
theorem settled_run (query : Select) (later : List Call) {index : Nat}
    (behind : index + 1 < query.joins.length) :
    (query.run later).joins[index]? = query.joins[index]? := by
  induction later generalizing query with
  | nil => rfl
  | cons call rest ih =>
      obtain ⟨same, still⟩ := (query.joinsStep_apply call).settled behind
      exact (ih (query.apply call) still).trans same

private theorem isEmpty_filterMap_joined? (calls : List Call) :
    (calls.filterMap Call.joined?).isEmpty = !calls.any Call.isJoin := by
  induction calls with
  | nil => rfl
  | cons call rest ih =>
      rw [List.filterMap_cons, List.any_cons, Call.isJoin]
      cases call.joined? with
      | none => exact ih
      | some _ => rfl

/-- There are joins when a call has added one. -/
theorem Factory.isEmpty_joins_run (factory : Factory) (calls : List Call) :
    (factory.query.run calls).joins.isEmpty = !calls.any Call.isJoin := by
  have origins := factory.query.origins_run calls
  rw [factory.joins_query, List.map_nil, List.nil_append] at origins
  calc (factory.query.run calls).joins.isEmpty
      = ((factory.query.run calls).joins.map Join.origin).isEmpty := List.isEmpty_map.symm
    _ = (calls.filterMap Call.joined?).isEmpty := by rw [origins]
    _ = !calls.any Call.isJoin := isEmpty_filterMap_joined? calls

/-- The target is the clause that was opened last. -/
theorem Factory.target_run (factory : Factory) (calls : List Call) :
    (factory.query.run calls).target = lastOpened calls.reverse := by
  suffices latest : ∀ history : List Call,
      (factory.query.run history.reverse).target = lastOpened history by
    have target := latest calls.reverse
    rwa [List.reverse_reverse] at target
  intro history
  induction history with
  | nil => exact factory.target_query
  | cons call earlier ih =>
      have joined := factory.isEmpty_joins_run earlier.reverse
      rw [List.any_reverse] at joined
      rw [List.reverse_cons, run_concat, target_apply, ih, joined, Bool.not_not]
      rfl

/-- What is said about a join that is not there is passed over. -/
example (conditions : Conditions) :
    lastOpened [.on conditions, .having conditions] = .having := rfl

/-- Only a join opens one where there was none. -/
theorem Call.isJoin_or_of_opens? {joined : Bool} {call : Call}
    (opens : call.opens? joined = some .join) : (call.isJoin || joined) = true := by
  cases call with
  | join joinKind item => rfl
  | on conditions =>
      cases joined with
      | true => rfl
      | false => cases opens
  | onSequence conditions =>
      cases joined with
      | true => rfl
      | false => cases opens
  | _ => cases opens

/-- When a join is the clause opened last, one was added. -/
theorem any_isJoin_of_lastOpened {history : List Call} (opened : lastOpened history = .join) :
    history.any Call.isJoin = true := by
  induction history with
  | nil => cases opened
  | cons call earlier ih =>
      rw [lastOpened] at opened
      rw [List.any_cons]
      cases opens : call.opens? (earlier.any Call.isJoin) with
      | none =>
          rw [opens] at opened
          rw [ih opened, Bool.or_true]
      | some clause =>
          rw [opens] at opened
          cases opened
          exact Call.isJoin_or_of_opens? opens

/-- The target is a join only when there is one. -/
theorem Factory.joins_run_ne_nil (factory : Factory) (calls : List Call)
    (target : (factory.query.run calls).target = .join) :
    (factory.query.run calls).joins ≠ [] := by
  rw [factory.target_run] at target
  have joined := any_isJoin_of_lastOpened target
  have empty := factory.isEmpty_joins_run calls
  rw [List.any_reverse] at joined
  rw [joined] at empty
  intro none
  rw [none] at empty
  cases empty

/-- Conditions are continued in the clause of the target; for a join there must be
one. -/
theorem appends_extend (query : Select) (connective : Connective) (conditions : Conditions)
    (anchored : query.target = .join → query.joins ≠ []) :
    Appends query.target connective conditions query
      (query.apply (.extend connective conditions)) := by
  cases target : query.target with
  | «where» => simp only [Appends, apply, extend, changeActive, target]
  | having => simp only [Appends, apply, extend, changeActive, target]
  | join =>
      rcases List.eq_nil_or_concat' query.joins with none | ⟨earlier, last, joins⟩
      · exact absurd none (anchored target)
      · refine ⟨earlier, last, joins, ?_⟩
        simp [apply, extend, changeActive, target, joins]

/-- With no join an ON changes nothing. -/
theorem changeOn_eq_self {query : Select} (none : query.joins.isEmpty = true)
    (change : Conditions → Conditions) : query.changeOn change = query := by
  rw [changeOn, if_pos none]

/-- With no join a USING changes nothing. -/
theorem addUsing_eq_self {query : Select} (none : query.joins.isEmpty = true)
    (tokens : List Token) : query.addUsing tokens = query := by
  rw [List.isEmpty_iff] at none
  rw [addUsing, none, Join.modifyLast, ← none]

/-- Whatever is called behind a factory, conditions go to the clause that the calls
opened last. -/
theorem Factory.routed_run (factory : Factory) (calls : List Call) :
    Routed calls (factory.query.run calls) where
  continued connective conditions := by
    rw [← factory.target_run]
    exact appends_extend _ connective conditions (factory.joins_run_ne_nil calls)
  joined := by
    have origins := factory.query.origins_run calls
    rwa [factory.joins_query] at origins
  ignored noJoin := by
    have none : (factory.query.run calls).joins.isEmpty = true := by
      rw [factory.isEmpty_joins_run, noJoin]
      rfl
    refine ⟨?_, ?_, ?_⟩
    · intro conditions
      rw [apply, pushOn, changeOn_eq_self none]
    · intro conditions
      rw [apply, installOn, changeOn_eq_self none]
    · intro tokens
      rw [apply, addUsing_eq_self none]
  settled later _ behind := settled_run _ later behind
  anchored := factory.joins_run_ne_nil calls

end Select

end ClauseTree
