import ClauseTree.Proofs.Recording
import ClauseTree.Proofs.Routing

/-!
# The clauses of a query

A query as a recorder of clauses.  Every join has conditions and shared columns of its
own, so the calls about one join are apart from those about another, and both are apart
from the calls that add joins.  A condition that continues others is about the clause
that it goes to in that state.
-/

namespace ClauseTree

namespace Join

/-- The number of the last of several joins, counted from zero. -/
def last? (joins : List Join) : Option Nat :=
  match joins.length with
  | 0 => none
  | earlier + 1 => some earlier

/-- What the join of a number holds; a join that is not there holds what an absent one
does. -/
def heldAt {α : Type} (held : Join → α) (absent : α) (joins : List Join) (index : Nat) : α :=
  (joins[index]?.map held).getD absent

variable {α : Type} {held : Join → α} {absent : α} {change : Join → Join}

private theorem last?_concat (earlier : List Join) (last : Join) :
    last? (earlier ++ [last]) = some earlier.length := by
  rw [last?, List.length_append]
  rfl

/-- A new join holds nothing yet, so what the joins hold is as before. -/
theorem heldAt_concat {join : Join} (new : held join = absent) (joins : List Join)
    (index : Nat) :
    heldAt held absent (joins ++ [join]) index = heldAt held absent joins index := by
  rw [heldAt, heldAt, List.getElem?_append]
  split
  · rfl
  · rename_i outside
    rw [List.getElem?_eq_none (Nat.le_of_not_lt outside), List.getElem?_singleton]
    split
    · exact new
    · rfl

/-- The last join holds what the change makes of it. -/
theorem heldAt_modifyLast_of_last {joins : List Join} {index : Nat} (after : α → α)
    (last : last? joins = some index)
    (held_change : ∀ join, held (change join) = after (held join)) :
    heldAt held absent (modifyLast change joins) index =
      after (heldAt held absent joins index) := by
  rcases List.eq_nil_or_concat' joins with rfl | ⟨earlier, final, rfl⟩
  · cases last
  · rw [last?_concat] at last
    cases last
    rw [modifyLast_concat, heldAt, heldAt, List.getElem?_concat_length,
      List.getElem?_concat_length]
    exact held_change final

/-- The other joins hold what they held. -/
theorem heldAt_modifyLast_of_ne {joins : List Join} {index : Nat}
    (other : last? joins ≠ some index) :
    heldAt held absent (modifyLast change joins) index = heldAt held absent joins index := by
  rcases List.eq_nil_or_concat' joins with rfl | ⟨earlier, final, rfl⟩
  · rfl
  · rw [last?_concat] at other
    have apart : earlier.length ≠ index := fun same => other (congrArg some same)
    rw [modifyLast_concat, heldAt, heldAt, List.getElem?_append, List.getElem?_append,
      List.getElem?_singleton, List.getElem?_singleton]
    split
    · rfl
    · rename_i outside
      have beyond : index - earlier.length ≠ 0 := by omega
      rw [if_neg beyond, if_neg beyond]

/-- A change of something else is not seen. -/
theorem heldAt_modifyLast_of_eq (unseen : ∀ join, held (change join) = held join)
    (joins : List Join) (index : Nat) :
    heldAt held absent (modifyLast change joins) index = heldAt held absent joins index := by
  by_cases last : last? joins = some index
  · exact heldAt_modifyLast_of_last id last unseen
  · exact heldAt_modifyLast_of_ne last

/-- Joins are told apart by what they join, what they join on and their columns. -/
theorem eq_of_heldAt {first second : List Join}
    (origins : first.map origin = second.map origin)
    (conditions : ∀ index, heldAt on .empty first index = heldAt on .empty second index)
    (shared : ∀ index, heldAt columns [] first index = heldAt columns [] second index) :
    first = second := by
  apply List.ext_getElem?
  intro index
  have origins := congrArg (fun list => list[index]?) origins
  have conditions := conditions index
  have shared := shared index
  simp only [List.getElem?_map] at origins
  rw [heldAt, heldAt] at conditions shared
  cases here : first[index]? with
  | none =>
      rw [here] at origins
      cases there : second[index]? with
      | none => rfl
      | some join => rw [there] at origins; cases origins
  | some join =>
      rw [here] at origins conditions shared
      cases there : second[index]? with
      | none => rw [there] at origins; cases origins
      | some other =>
          rw [there] at origins conditions shared
          obtain ⟨joinKind, source, on, columns⟩ := join
          obtain ⟨joinKind', source', on', columns'⟩ := other
          cases origins
          cases conditions
          cases shared
          rfl

end Join

namespace Select

/-- The clauses of a query.  The joins are numbered from zero. -/
inductive Clause where
  | queries
  | quantifier
  | columns
  | sources
  /-- What is joined and how. -/
  | joins
  /-- The conditions of one join. -/
  | on (index : Nat)
  /-- The shared columns of one join. -/
  | shared (index : Nat)
  | filter
  | groupBy
  | having
  | setOperations
  | orderBy
  | limit
  | offset
  | locking
deriving DecidableEq

/-- What is recorded of a clause. -/
def Clause.Content : Clause → Type
  | .queries => Option With
  | .quantifier => Quantifier
  | .columns => List Token
  | .sources => List FromItem
  | .joins => List (JoinKind × FromItem)
  | .on _ => Conditions
  | .shared _ => List Token
  | .filter => Conditions
  | .groupBy => List Token
  | .having => Conditions
  | .setOperations => List (SetOperator × Tree)
  | .orderBy => List OrderBy
  | .limit => Option Token
  | .offset => Option Token
  | .locking => Option Locking

/-- What a query holds of a clause. -/
def content (query : Select) : (clause : Clause) → clause.Content
  | .queries => query.withClause
  | .quantifier => query.quantifier
  | .columns => query.columns
  | .sources => query.sources
  | .joins => query.joins.map Join.origin
  | .on index => Join.heldAt Join.on .empty query.joins index
  | .shared index => Join.heldAt Join.columns [] query.joins index
  | .filter => query.filter
  | .groupBy => query.groupBy
  | .having => query.having
  | .setOperations => query.setOperations
  | .orderBy => query.orderBy
  | .limit => query.limit
  | .offset => query.offset
  | .locking => query.locking

/-- The clause of the conditions that are continued. -/
def active (query : Select) : Clause :=
  match query.target with
  | .where => .filter
  | .having => .having
  | .join => ((Join.last? query.joins).map Clause.on).getD .filter

/-- The clause that a call is about. -/
def Call.clause? (query : Select) : Call → Option Clause
  | .columns _ => some .columns
  | .quantifier _ => some .quantifier
  | .sources _ => some .sources
  | .join _ _ => some .joins
  | .on _ => (Join.last? query.joins).map .on
  | .onSequence _ => (Join.last? query.joins).map .on
  | .usingColumns _ => (Join.last? query.joins).map .shared
  | .filter _ => some .filter
  | .filterSequence _ => some .filter
  | .filterChange _ => some .filter
  | .having _ => some .having
  | .havingSequence _ => some .having
  | .extend _ _ => some query.active
  | .activeChange _ => some query.active
  | .groupBy _ => some .groupBy
  | .combine _ _ => some .setOperations
  | .orderBy _ => some .orderBy
  | .limit _ => some .limit
  | .limitAll => some .limit
  | .offset _ => some .offset
  | .lock _ => some .locking
  | .lockTables _ => some .locking
  | .wait _ => some .locking

/-! ### Joins -/

/-- Change the conditions of the last join and nothing else. -/
def changeLastOn (query : Select) (change : Conditions → Conditions) : Select :=
  { query with
    joins := Join.modifyLast (fun join => { join with on := change join.on }) query.joins }

private theorem changeLastOn_eq_self {query : Select} (none : query.joins.isEmpty = true)
    (change : Conditions → Conditions) : query.changeLastOn change = query := by
  rw [List.isEmpty_iff] at none
  rw [changeLastOn, none, Join.modifyLast, ← none]

/-- A change of the last join leaves what is joined. -/
theorem origins_modifyLast {change : Join → Join}
    (same : ∀ join, (change join).origin = join.origin) (joins : List Join) :
    (Join.modifyLast change joins).map Join.origin = joins.map Join.origin := by
  have step := (JoinsStep.modifyLast joins same).origins
  rwa [Option.toList_none, List.append_nil] at step

/-- The target is no clause, so it makes no difference to what is written. -/
theorem content_changeOn (query : Select) (change : Conditions → Conditions)
    (clause : Clause) :
    (query.changeOn change).content clause = (query.changeLastOn change).content clause := by
  unfold changeOn
  split
  · rename_i none
    rw [changeLastOn_eq_self none]
  · cases clause <;> rfl

private theorem content_changeLastOn_of_ne (query : Select) (change : Conditions → Conditions)
    {clause : Clause} (other : (Join.last? query.joins).map Clause.on ≠ some clause) :
    (query.changeLastOn change).content clause = query.content clause := by
  cases clause with
  | joins =>
      apply origins_modifyLast
      intro join
      rfl
  | on index =>
      apply Join.heldAt_modifyLast_of_ne
      intro last
      exact other (congrArg (Option.map Clause.on) last)
  | shared index =>
      apply Join.heldAt_modifyLast_of_eq
      intro join
      rfl
  | _ => rfl

private theorem content_changeLastOn_on {query : Select} {index : Nat}
    (last : Join.last? query.joins = some index) (change : Conditions → Conditions) :
    (query.changeLastOn change).content (.on index) = change (query.content (.on index)) :=
  Join.heldAt_modifyLast_of_last change last fun _ => rfl

/-- Conditions are continued in one of three ways, and never in a join that is not
there. -/
theorem changeActive_cases (query : Select) (change : Conditions → Conditions) :
    (query.active = .filter ∧
      query.changeActive change = { query with filter := change query.filter }) ∨
    (query.active = .having ∧
      query.changeActive change = { query with having := change query.having }) ∨
    (∃ index, Join.last? query.joins = some index ∧ query.active = .on index ∧
      query.changeActive change = query.changeLastOn change) := by
  cases target : query.target with
  | «where» => exact .inl (by simp only [active, changeActive, target, and_self])
  | having => exact .inr (.inl (by simp only [active, changeActive, target, and_self]))
  | join =>
      rcases List.eq_nil_or_concat' query.joins with none | ⟨earlier, last, joins⟩
      · refine .inl ⟨?_, ?_⟩
        · simp [active, target, none, Join.last?]
        · simp [changeActive, target, none]
      · have number : Join.last? query.joins = some earlier.length := by
          rw [joins, Join.last?_concat]
        refine .inr (.inr ⟨earlier.length, number, ?_, ?_⟩)
        · simp [active, target, number]
        · simp [changeActive, changeLastOn, target, joins]

/-! ### The two laws -/

/-- A continuation leaves every clause but the continued one as it was. -/
theorem content_changeActive_of_ne (query : Select) (change : Conditions → Conditions)
    {clause : Clause} (other : query.active ≠ clause) :
    (query.changeActive change).content clause = query.content clause := by
  rcases query.changeActive_cases change with
    ⟨inFilter, after⟩ | ⟨inHaving, after⟩ | ⟨index, last, inJoin, after⟩
  · rw [inFilter] at other
    rw [after]
    cases clause <;> first | rfl | exact absurd rfl other
  · rw [inHaving] at other
    rw [after]
    cases clause <;> first | rfl | exact absurd rfl other
  · rw [after]
    apply content_changeLastOn_of_ne
    rw [last, Option.map_some, ← inJoin]
    exact fun same => other (Option.some.inj same)

/-- A call leaves the clauses that it is not about. -/
theorem content_apply_of_ne (query : Select) (call : Call) (clause : Clause)
    (other : call.clause? query ≠ some clause) :
    (query.apply call).content clause = query.content clause := by
  cases call with
  | join joinKind item =>
      cases clause with
      | joins => exact absurd rfl other
      | on index => exact Join.heldAt_concat rfl query.joins index
      | shared index => exact Join.heldAt_concat rfl query.joins index
      | _ => rfl
  | on conditions =>
      exact (query.content_changeOn _ clause).trans (query.content_changeLastOn_of_ne _ other)
  | onSequence conditions =>
      exact (query.content_changeOn _ clause).trans (query.content_changeLastOn_of_ne _ other)
  | usingColumns tokens =>
      cases clause with
      | joins =>
          apply origins_modifyLast
          intro join
          rfl
      | on index =>
          apply Join.heldAt_modifyLast_of_eq
          intro join
          rfl
      | shared index =>
          apply Join.heldAt_modifyLast_of_ne
          intro last
          exact other (congrArg (Option.map Clause.shared) last)
      | _ => rfl
  | extend connective conditions =>
      exact query.content_changeActive_of_ne _ fun same => other (congrArg some same)
  | activeChange change =>
      exact query.content_changeActive_of_ne _ fun same => other (congrArg some same)
  | _ => cases clause <;> first | rfl | exact absurd rfl other

private theorem changeActive_of_filter {query : Select} (active : query.active = .filter)
    (change : Conditions → Conditions) :
    query.changeActive change = { query with filter := change query.filter } := by
  rcases query.changeActive_cases change with
    ⟨_, after⟩ | ⟨inHaving, _⟩ | ⟨_, _, inJoin, _⟩
  · exact after
  · cases active.symm.trans inHaving
  · cases active.symm.trans inJoin

private theorem changeActive_of_having {query : Select} (active : query.active = .having)
    (change : Conditions → Conditions) :
    query.changeActive change = { query with having := change query.having } := by
  rcases query.changeActive_cases change with
    ⟨inFilter, _⟩ | ⟨_, after⟩ | ⟨_, _, inJoin, _⟩
  · cases active.symm.trans inFilter
  · exact after
  · cases active.symm.trans inJoin

private theorem content_changeActive_of_on {query : Select} {index : Nat}
    (active : query.active = .on index) (change : Conditions → Conditions) :
    (query.changeActive change).content (.on index) = change (query.content (.on index)) := by
  rcases query.changeActive_cases change with
    ⟨inFilter, _⟩ | ⟨inHaving, _⟩ | ⟨_, last, inJoin, after⟩
  · cases active.symm.trans inFilter
  · cases active.symm.trans inHaving
  · cases active.symm.trans inJoin
    rw [after]
    exact content_changeLastOn_on last change

/-- In two queries that continue the same clause and hold the same of it, a change
makes the same of it. -/
theorem content_changeActive_eq {query other : Select} {clause : Clause}
    (here : query.active = clause) (there : other.active = clause)
    (same : query.content clause = other.content clause)
    (change : Conditions → Conditions) :
    (query.changeActive change).content clause =
      (other.changeActive change).content clause := by
  rcases query.changeActive_cases change with
    ⟨inFilter, _⟩ | ⟨inHaving, _⟩ | ⟨index, _, inJoin, _⟩
  · cases inFilter.symm.trans here
    rw [changeActive_of_filter here, changeActive_of_filter there]
    exact congrArg change same
  · cases inHaving.symm.trans here
    rw [changeActive_of_having here, changeActive_of_having there]
    exact congrArg change same
  · cases inJoin.symm.trans here
    rw [content_changeActive_of_on here, content_changeActive_of_on there]
    exact congrArg change same

/-- The same of the conditions of the last join. -/
theorem content_changeOn_eq {query other : Select} {clause : Clause}
    (here : (Join.last? query.joins).map Clause.on = some clause)
    (there : (Join.last? other.joins).map Clause.on = some clause)
    (same : query.content clause = other.content clause)
    (change : Conditions → Conditions) :
    (query.changeOn change).content clause = (other.changeOn change).content clause := by
  obtain ⟨index, last, rfl⟩ := Option.map_eq_some_iff.mp here
  obtain ⟨number, otherLast, on⟩ := Option.map_eq_some_iff.mp there
  cases on
  rw [content_changeOn, content_changeOn, content_changeLastOn_on last,
    content_changeLastOn_on otherLast]
  exact congrArg change same

/-- A join is added behind the joins there are. -/
theorem content_addJoin (query : Select) (joinKind : JoinKind) (item : FromItem) :
    (query.apply (.join joinKind item)).content .joins =
      query.joins.map Join.origin ++ [(joinKind, item)] :=
  List.map_append

/-- The columns of USING go behind those the last join has. -/
theorem content_addUsing {query : Select} {index : Nat}
    (last : Join.last? query.joins = some index) (tokens : List Token) :
    (query.apply (.usingColumns tokens)).content (.shared index) =
      Join.heldAt Join.columns [] query.joins index ++ tokens :=
  Join.heldAt_modifyLast_of_last (· ++ tokens) last fun _ => rfl

/-- Of its clause a call makes the same wherever the same was recorded of it. -/
theorem content_apply_eq (query other : Select) (call : Call) (clause : Clause)
    (here : call.clause? query = some clause) (there : call.clause? other = some clause)
    (same : query.content clause = other.content clause) :
    (query.apply call).content clause = (other.apply call).content clause := by
  cases call with
  | columns tokens =>
      cases here
      exact congrArg (· ++ tokens) same
  | quantifier quantifier =>
      cases here
      rfl
  | sources items =>
      cases here
      exact congrArg (· ++ items) same
  | join joinKind item =>
      cases here
      rw [content_addJoin, content_addJoin]
      exact congrArg (· ++ [(joinKind, item)]) same
  | on conditions => exact content_changeOn_eq here there same _
  | onSequence conditions => exact content_changeOn_eq here there same _
  | usingColumns tokens =>
      obtain ⟨index, last, rfl⟩ := Option.map_eq_some_iff.mp here
      obtain ⟨number, otherLast, shared⟩ := Option.map_eq_some_iff.mp there
      cases shared
      rw [content_addUsing last, content_addUsing otherLast]
      exact congrArg (· ++ tokens) same
  | filter conditions =>
      cases here
      exact congrArg (Conditions.push · .and conditions) same
  | filterSequence conditions =>
      cases here
      exact congrArg (Conditions.install · conditions) same
  | filterChange change =>
      cases here
      exact congrArg change same
  | having conditions =>
      cases here
      exact congrArg (Conditions.push · .and conditions) same
  | havingSequence conditions =>
      cases here
      exact congrArg (Conditions.install · conditions) same
  | extend connective conditions =>
      exact content_changeActive_eq (Option.some.inj here) (Option.some.inj there) same _
  | activeChange change =>
      exact content_changeActive_eq (Option.some.inj here) (Option.some.inj there) same change
  | groupBy tokens =>
      cases here
      exact congrArg (· ++ tokens) same
  | combine operator tree =>
      cases here
      exact congrArg (· ++ [(operator, tree)]) same
  | orderBy term =>
      cases here
      exact congrArg (· ++ [term]) same
  | lockTables tokens =>
      cases here
      exact congrArg (Option.map fun locking =>
        { locking with tables := locking.tables ++ tokens }) same
  | wait wait =>
      cases here
      exact congrArg (Option.map fun locking => { locking with wait := some wait }) same
  -- The other calls drop what was recorded of their clause.
  | _ =>
      cases here
      rfl

/-- Queries as recorders of their clauses. -/
def recorder : Recorder Select Call Clause where
  apply := apply
  clause? query call := call.clause? query
  Content := Clause.Content
  content := content
  frame := content_apply_of_ne
  effect := content_apply_eq

/-- A query is written from what it holds of its clauses. -/
theorem steps_eq_of_content {query other : Select}
    (same : ∀ clause, query.content clause = other.content clause) :
    query.steps = other.steps := by
  have joins : query.joins = other.joins :=
    Join.eq_of_heldAt (same .joins) (fun index => same (.on index))
      fun index => same (.shared index)
  obtain ⟨withClause, quantifier, columns, sources, _, filter, groupBy, having,
    setOperations, orderBy, limit, offset, locking, target⟩ := query
  cases joins
  cases same .queries
  cases same .quantifier
  cases same .columns
  cases same .sources
  cases same .filter
  cases same .groupBy
  cases same .having
  cases same .setOperations
  cases same .orderBy
  cases same .limit
  cases same .offset
  cases same .locking
  rfl

end Select

end ClauseTree
