import ClauseTree.Proofs.SelectClauses

/-!
# The order in which clauses are recorded

Each of the other statements as a recorder of clauses, and what follows for all five:
only the order of the calls about one and the same clause counts.  The conflict clause
of an insertion has three parts that are recorded apart, but any of them brings the
whole clause about, so that it is there has to be said by itself.
-/

namespace ClauseTree

/-! ### Insertions -/

namespace Insert

/-- The clauses of an insertion. -/
inductive Clause where
  | queries
  | table
  | columns
  | overriding
  | source
  | conflictTarget
  | conflictAction
  | conflictFilter
  | returning
deriving DecidableEq

/-- What is recorded of a clause. -/
def Clause.Content : Clause → Type
  | .queries => Option With
  | .table => Token
  | .columns => List Token
  | .overriding => Option Overriding
  | .source => RowSource
  | .conflictTarget => ConflictTarget
  | .conflictAction => Bool × List Assignment
  | .conflictFilter => Conditions
  | .returning => List Token

/-- The conflict clause, or what one says before anything is said of it. -/
def conflict (insert : Insert) : OnConflict :=
  insert.onConflict.getD .empty

/-- What an insertion holds of a clause. -/
def content (insert : Insert) : (clause : Clause) → clause.Content
  | .queries => insert.withClause
  | .table => insert.table
  | .columns => insert.columns
  | .overriding => insert.overriding
  | .source => insert.source
  | .conflictTarget => insert.conflict.target
  | .conflictAction => (insert.conflict.doNothing, insert.conflict.assignments)
  | .conflictFilter => insert.conflict.filter
  | .returning => insert.returning

/-- The clause that a call is about. -/
def Call.clause : Call → Clause
  | .aliased _ => .table
  | .columns _ => .columns
  | .overriding _ => .overriding
  | .defaultValues => .source
  | .values _ => .source
  | .query _ => .source
  | .conflictOn _ => .conflictTarget
  | .doNothing => .conflictAction
  | .doUpdateSet _ _ => .conflictAction
  | .doUpdateSetExcluded _ => .conflictAction
  | .doUpdateWhere _ => .conflictFilter
  | .returning _ => .returning

private theorem source_apply_values (insert : Insert) (row : List Token) :
    (insert.apply (.values row)).source =
      match insert.source with
      | .values rows => .values (rows ++ [row])
      | _ => .values [row] := by
  cases source : insert.source <;> simp only [apply, addRow, source]

/-- A call leaves every clause but its own as it was. -/
theorem content_apply_of_ne (insert : Insert) (call : Call) (clause : Clause)
    (other : call.clause ≠ clause) :
    (insert.apply call).content clause = insert.content clause := by
  cases call with
  | values row =>
      rw [apply, addRow]
      cases clause <;> first | exact absurd rfl other | (split <;> rfl)
  | _ => cases clause <;> first | rfl | exact absurd rfl other

/-- What a call makes of its own clause depends on that clause alone. -/
theorem content_apply_eq (insert other : Insert) (call : Call)
    (same : insert.content call.clause = other.content call.clause) :
    (insert.apply call).content call.clause = (other.apply call).content call.clause := by
  cases call with
  | aliased name => exact congrArg (Token.aliased · name []) same
  | columns tokens => exact congrArg (· ++ tokens) same
  | values row =>
      have source : insert.source = other.source := same
      exact (insert.source_apply_values row).trans (source ▸ (other.source_apply_values row).symm)
  | doUpdateSet column value =>
      exact congrArg (fun action => (false, action.2 ++ [⟨column, value⟩])) same
  | doUpdateSetExcluded column =>
      exact congrArg
        (fun action => (false, action.2 ++ [⟨.name column, .name ("EXCLUDED." ++ column)⟩])) same
  | doUpdateWhere conditions => exact congrArg (Conditions.push · .and conditions) same
  | returning tokens => exact congrArg (· ++ tokens) same
  -- The other calls drop what was recorded of their clause.
  | _ => rfl

/-- Insertions as recorders of their clauses. -/
def recorder : Recorder Insert Call Clause :=
  .ofClause apply Call.clause Clause.Content content content_apply_of_ne content_apply_eq

/-- Whether a call brings the conflict clause about. -/
def Call.isConflict (call : Call) : Bool :=
  match call.clause with
  | .conflictTarget => true
  | .conflictAction => true
  | .conflictFilter => true
  | _ => false

private theorem isSome_onConflict_apply (insert : Insert) (call : Call) :
    (insert.apply call).onConflict.isSome = (insert.onConflict.isSome || call.isConflict) := by
  cases call with
  | values row =>
      rw [apply, addRow]
      split <;> exact (Bool.or_false _).symm
  | conflictOn target => exact (Bool.or_true _).symm
  | doNothing => exact (Bool.or_true _).symm
  | doUpdateSet column value => exact (Bool.or_true _).symm
  | doUpdateSetExcluded column => exact (Bool.or_true _).symm
  | doUpdateWhere conditions => exact (Bool.or_true _).symm
  | _ => exact (Bool.or_false _).symm

/-- There is a conflict clause when there was one or a call has spoken of it. -/
theorem isSome_onConflict_run (insert : Insert) (calls : List Call) :
    (recorder.run insert calls).onConflict.isSome =
      (insert.onConflict.isSome || calls.any Call.isConflict) := by
  induction calls generalizing insert with
  | nil => exact (Bool.or_false _).symm
  | cons call rest ih =>
      have others := ih (insert.apply call)
      rw [isSome_onConflict_apply, Bool.or_assoc] at others
      exact others

/-- Histories that agree about every clause agree about whether there is a conflict
clause. -/
theorem any_isConflict_eq {insert : Insert} {first second : List Call}
    (agree : ∀ clause, recorder.addressed clause insert first =
      recorder.addressed clause insert second) :
    first.any Call.isConflict = second.any Call.isConflict := by
  have members (call : Call) : call ∈ first ↔ call ∈ second := by
    have about (state : Insert) : recorder.clause? state call = some call.clause := rfl
    rw [← recorder.mem_addressed_iff about insert first, agree,
      recorder.mem_addressed_iff about]
  rw [Bool.eq_iff_iff, List.any_eq_true, List.any_eq_true]
  simp only [members]

/-- An insertion is written from what it holds of its clauses, once it is known whether
there is a conflict clause. -/
theorem steps_eq_of_content {insert other : Insert}
    (same : ∀ clause, insert.content clause = other.content clause)
    (present : insert.onConflict.isSome = other.onConflict.isSome) :
    insert.steps = other.steps := by
  have onConflict : insert.onConflict = other.onConflict := by
    have target : insert.conflict.target = other.conflict.target := same .conflictTarget
    have action : (insert.conflict.doNothing, insert.conflict.assignments) =
        (other.conflict.doNothing, other.conflict.assignments) := same .conflictAction
    have filter : insert.conflict.filter = other.conflict.filter := same .conflictFilter
    rw [conflict, conflict] at target action filter
    -- No conflict clause and an empty one hold the same of their clauses; `present` tells which
    -- it is.
    cases here : insert.onConflict with
    | none =>
        cases there : other.onConflict with
        | none => rfl
        | some _ =>
            rw [here, there] at present
            cases present
    | some conflict =>
        cases there : other.onConflict with
        | none =>
            rw [here, there] at present
            cases present
        | some _ =>
            rw [here, there] at target action filter
            obtain ⟨_, _, _, _⟩ := conflict
            cases target
            cases action
            cases filter
            rfl
  obtain ⟨withClause, table, columns, overriding, source, _, returning⟩ := insert
  cases onConflict
  cases same .queries
  cases same .table
  cases same .columns
  cases same .overriding
  cases same .source
  cases same .returning
  rfl

end Insert

/-! ### Updates -/

namespace Update

/-- The clauses of an update. -/
inductive Clause where
  | queries
  | only
  | table
  | assignments
  | sources
  | filter
  | cursor
  | returning
deriving DecidableEq

/-- What is recorded of a clause. -/
def Clause.Content : Clause → Type
  | .queries => Option With
  | .only => Bool
  | .table => Token
  | .assignments => List Assignment
  | .sources => List FromItem
  | .filter => Conditions
  | .cursor => Option Token
  | .returning => List Token

/-- What an update holds of a clause. -/
def content (update : Update) : (clause : Clause) → clause.Content
  | .queries => update.withClause
  | .only => update.only
  | .table => update.table
  | .assignments => update.assignments
  | .sources => update.sources
  | .filter => update.filter
  | .cursor => update.cursor
  | .returning => update.returning

/-- The clause that a call is about. -/
def Call.clause : Call → Clause
  | .only => .only
  | .aliased _ => .table
  | .set _ _ => .assignments
  | .setRow _ _ => .assignments
  | .setSubQuery _ _ => .assignments
  | .source _ => .sources
  | .filter _ _ => .filter
  | .filterSequence _ => .filter
  | .filterChange _ => .filter
  | .whereCurrentOf _ => .cursor
  | .returning _ => .returning

/-- A call leaves every clause but its own as it was. -/
theorem content_apply_of_ne (update : Update) (call : Call) (clause : Clause)
    (other : call.clause ≠ clause) :
    (update.apply call).content clause = update.content clause := by
  cases call <;> cases clause <;> first | rfl | exact absurd rfl other

/-- What a call makes of its own clause depends on that clause alone. -/
theorem content_apply_eq (update other : Update) (call : Call)
    (same : update.content call.clause = other.content call.clause) :
    (update.apply call).content call.clause = (other.apply call).content call.clause := by
  cases call with
  | only => rfl
  | aliased name => exact congrArg (Token.aliased · name []) same
  | set column value => exact congrArg (· ++ [⟨column, value⟩]) same
  | setRow columns values => exact congrArg (· ++ [⟨.list columns, .list values⟩]) same
  | setSubQuery columns query => exact congrArg (· ++ [⟨.list columns, .subQuery query⟩]) same
  | source item => exact congrArg (· ++ [item]) same
  | filter connective conditions => exact congrArg (Conditions.push · connective conditions) same
  | filterSequence conditions => exact congrArg (Conditions.install · conditions) same
  | filterChange change => exact congrArg change same
  | whereCurrentOf cursor => rfl
  | returning tokens => exact congrArg (· ++ tokens) same

/-- Updates as recorders of their clauses. -/
def recorder : Recorder Update Call Clause :=
  .ofClause apply Call.clause Clause.Content content content_apply_of_ne content_apply_eq

/-- An update is written from what it holds of its clauses. -/
theorem steps_eq_of_content {update other : Update}
    (same : ∀ clause, update.content clause = other.content clause) :
    update.steps = other.steps := by
  obtain ⟨withClause, only, table, assignments, sources, filter, cursor, returning⟩ := update
  cases same .queries
  cases same .only
  cases same .table
  cases same .assignments
  cases same .sources
  cases same .filter
  cases same .cursor
  cases same .returning
  rfl

end Update

/-! ### Deletions -/

namespace Delete

/-- The clauses of a deletion. -/
inductive Clause where
  | queries
  | only
  | table
  | sources
  | filter
  | cursor
  | returning
deriving DecidableEq

/-- What is recorded of a clause. -/
def Clause.Content : Clause → Type
  | .queries => Option With
  | .only => Bool
  | .table => Token
  | .sources => List Token
  | .filter => Conditions
  | .cursor => Option Token
  | .returning => List Token

/-- What a deletion holds of a clause. -/
def content (delete : Delete) : (clause : Clause) → clause.Content
  | .queries => delete.withClause
  | .only => delete.only
  | .table => delete.table
  | .sources => delete.sources
  | .filter => delete.filter
  | .cursor => delete.cursor
  | .returning => delete.returning

/-- The clause that a call is about. -/
def Call.clause : Call → Clause
  | .only => .only
  | .aliased _ => .table
  | .sources _ => .sources
  | .filter _ _ => .filter
  | .filterSequence _ => .filter
  | .filterChange _ => .filter
  | .whereCurrentOf _ => .cursor
  | .returning _ => .returning

/-- A call leaves every clause but its own as it was. -/
theorem content_apply_of_ne (delete : Delete) (call : Call) (clause : Clause)
    (other : call.clause ≠ clause) :
    (delete.apply call).content clause = delete.content clause := by
  cases call <;> cases clause <;> first | rfl | exact absurd rfl other

/-- What a call makes of its own clause depends on that clause alone. -/
theorem content_apply_eq (delete other : Delete) (call : Call)
    (same : delete.content call.clause = other.content call.clause) :
    (delete.apply call).content call.clause = (other.apply call).content call.clause := by
  cases call with
  | only => rfl
  | aliased name => exact congrArg (Token.aliased · name []) same
  | sources tokens => exact congrArg (· ++ tokens) same
  | filter connective conditions => exact congrArg (Conditions.push · connective conditions) same
  | filterSequence conditions => exact congrArg (Conditions.install · conditions) same
  | filterChange change => exact congrArg change same
  | whereCurrentOf cursor => rfl
  | returning tokens => exact congrArg (· ++ tokens) same

/-- Deletions as recorders of their clauses. -/
def recorder : Recorder Delete Call Clause :=
  .ofClause apply Call.clause Clause.Content content content_apply_of_ne content_apply_eq

/-- A deletion is written from what it holds of its clauses. -/
theorem steps_eq_of_content {delete other : Delete}
    (same : ∀ clause, delete.content clause = other.content clause) :
    delete.steps = other.steps := by
  obtain ⟨withClause, only, table, sources, filter, cursor, returning⟩ := delete
  cases same .queries
  cases same .only
  cases same .table
  cases same .sources
  cases same .filter
  cases same .cursor
  cases same .returning
  rfl

end Delete

/-! ### Sequences -/

namespace CreateSequence

/-- The options of a sequence; a later choice of one replaces an earlier one. -/
inductive Clause where
  | temporary
  | ifNotExists
  | name
  | dataType
  | increment
  | minValue
  | maxValue
  | start
  | cache
  | cycle
  | ownedBy
deriving DecidableEq

/-- What is recorded of an option. -/
def Clause.Content : Clause → Type
  | .temporary => Bool
  | .ifNotExists => Bool
  | .name => Token
  | .dataType => Option Token
  | .increment => Option Spelled
  | .minValue => Option Bound
  | .maxValue => Option Bound
  | .start => Option Spelled
  | .cache => Option Int64
  | .cycle => Option Bool
  | .ownedBy => Option Token

/-- What a sequence holds of an option. -/
def content (sequence : CreateSequence) : (clause : Clause) → clause.Content
  | .temporary => sequence.temporary
  | .ifNotExists => sequence.ifNotExists
  | .name => sequence.name
  | .dataType => sequence.dataType
  | .increment => sequence.increment
  | .minValue => sequence.minValue
  | .maxValue => sequence.maxValue
  | .start => sequence.start
  | .cache => sequence.cache
  | .cycle => sequence.cycle
  | .ownedBy => sequence.ownedBy

/-- The option that a call is about. -/
def Call.clause : Call → Clause
  | .temporary => .temporary
  | .ifNotExists => .ifNotExists
  | .dataType _ => .dataType
  | .increment _ => .increment
  | .minValue _ => .minValue
  | .maxValue _ => .maxValue
  | .start _ => .start
  | .cache _ => .cache
  | .cycle _ => .cycle
  | .ownedBy _ => .ownedBy
  | .ownedByNone => .ownedBy

/-- A call leaves every clause but its own as it was. -/
theorem content_apply_of_ne (sequence : CreateSequence) (call : Call) (clause : Clause)
    (other : call.clause ≠ clause) :
    (sequence.apply call).content clause = sequence.content clause := by
  cases call <;> cases clause <;> first | rfl | exact absurd rfl other

/-- What a call makes of its own clause depends on that clause alone. -/
theorem content_apply_eq (sequence other : CreateSequence) (call : Call)
    (_ : sequence.content call.clause = other.content call.clause) :
    (sequence.apply call).content call.clause = (other.apply call).content call.clause := by
  -- No option depends on what was chosen before.
  cases call <;> rfl

/-- Sequences as recorders of their options. -/
def recorder : Recorder CreateSequence Call Clause :=
  .ofClause apply Call.clause Clause.Content content content_apply_of_ne content_apply_eq

/-- A sequence is written from what it holds of its options. -/
theorem steps_eq_of_content {sequence other : CreateSequence}
    (same : ∀ clause, sequence.content clause = other.content clause) :
    sequence.steps = other.steps := by
  obtain ⟨temporary, ifNotExists, name, dataType, increment, minValue, maxValue, start,
    cache, cycle, ownedBy⟩ := sequence
  cases same .temporary
  cases same .ifNotExists
  cases same .name
  cases same .dataType
  cases same .increment
  cases same .minValue
  cases same .maxValue
  cases same .start
  cases same .cache
  cases same .cycle
  cases same .ownedBy
  rfl

end CreateSequence

/-! ### All statements -/

section

variable {State Call Clause : Type} [DecidableEq Clause]
  {recorder : Recorder State Call Clause} {statement : State → Statement}

/-- It is enough that such histories lead to the same tree. -/
theorem Recorder.orderFree_of_toTree_eq
    (written : ∀ (start : State) (first second : List Call),
      (∀ clause, recorder.addressed clause start first =
        recorder.addressed clause start second) →
      (statement (recorder.run start first)).toTree =
        (statement (recorder.run start second)).toTree) :
    recorder.OrderFree statement := by
  intro start first second agree
  have tree := written start first second agree
  exact ⟨congrArg Tree.sql tree, fun style => congrArg (Tree.prepared style) tree⟩

/-- It is enough that the tree is made from what is held of the clauses. -/
theorem Recorder.orderFree_of_content
    (written : ∀ state other : State,
      (∀ clause, recorder.content state clause = recorder.content other clause) →
      (statement state).toTree = (statement other).toTree) :
    recorder.OrderFree statement := by
  apply Recorder.orderFree_of_toTree_eq
  intro start first second agree
  exact written _ _ (recorder.contents_run_eq start agree)

end

/-- What is written does not depend on the order in which independent clauses are
recorded: for each kind of statement, histories with the same calls about each clause
give the same literal text, and the same prepared text and parameters. -/
theorem Statement.orderFree :
    Select.recorder.OrderFree .select ∧ Insert.recorder.OrderFree .insert ∧
      Update.recorder.OrderFree .update ∧ Delete.recorder.OrderFree .delete ∧
      CreateSequence.recorder.OrderFree .createSequence := by
  refine ⟨?select, ?insert, ?update, ?delete, ?createSequence⟩
  case select =>
    apply Recorder.orderFree_of_content
    intro query other same
    exact congrArg Tree.empty.written (Select.steps_eq_of_content same)
  case insert =>
    apply Recorder.orderFree_of_toTree_eq
    intro start first second agree
    have same := Insert.recorder.contents_run_eq start agree
    have present : (Insert.recorder.run start first).onConflict.isSome =
        (Insert.recorder.run start second).onConflict.isSome := by
      rw [Insert.isSome_onConflict_run, Insert.isSome_onConflict_run,
        Insert.any_isConflict_eq agree]
    exact congrArg Tree.empty.written (Insert.steps_eq_of_content same present)
  case update =>
    apply Recorder.orderFree_of_content
    intro update other same
    exact congrArg Tree.empty.written (Update.steps_eq_of_content same)
  case delete =>
    apply Recorder.orderFree_of_content
    intro delete other same
    exact congrArg Tree.empty.written (Delete.steps_eq_of_content same)
  case createSequence =>
    apply Recorder.orderFree_of_content
    intro sequence other same
    exact congrArg Tree.empty.written (CreateSequence.steps_eq_of_content same)

/-- A join with its condition behind or before `WHERE` and its continuation, a conflict
clause with its parts in either order, and options the other way round. -/
theorem orderFree_reordered :
    let item : FromItem := .ofToken (.name "t")
    let term (name : String) : Conditions := .predicate [.name name]
    let joinFirst : List Select.Call := [.join .left item, .on (term "a"),
      .extend .or (term "b"), .filter (term "c"), .extend .orNot (term "d"), .limit 1]
    let filterFirst : List Select.Call := [.filter (term "c"), .limit 1,
      .extend .orNot (term "d"), .join .left item, .on (term "a"), .extend .or (term "b")]
    let actionFirst : List Insert.Call := [.doUpdateSetExcluded "x", .values [.name "1"],
      .conflictOn (.columns [.name "id"]), .doUpdateWhere (term "e")]
    let targetFirst : List Insert.Call := [.doUpdateWhere (term "e"),
      .conflictOn (.columns [.name "id"]), .doUpdateSetExcluded "x", .values [.name "1"]]
    let filtered : List Update.Call := [.filter .and (term "a"), .only, .filter .or (term "b")]
    let restricted : List Update.Call := [.only, .filter .and (term "a"), .filter .or (term "b")]
    let cursorLast : List Delete.Call := [.only, .whereCurrentOf "c"]
    let cursorFirst : List Delete.Call := [.whereCurrentOf "c", .only]
    let cachedLast : List CreateSequence.Call := [.cycle true, .cycle false, .cache 5]
    let cachedFirst : List CreateSequence.Call := [.cache 5, .cycle true, .cycle false]
    let table : Token := .name "t"
    (Statement.select (Select.recorder.run (.ofColumns []) joinFirst)).sql =
        (Statement.select (Select.recorder.run (.ofColumns []) filterFirst)).sql ∧
      (Statement.insert (Insert.recorder.run (.into table) actionFirst)).sql =
        (Statement.insert (Insert.recorder.run (.into table) targetFirst)).sql ∧
      (Statement.update (Update.recorder.run (.ofTable table) filtered)).sql =
        (Statement.update (Update.recorder.run (.ofTable table) restricted)).sql ∧
      (Statement.delete (Delete.recorder.run (.ofTable table) cursorLast)).sql =
        (Statement.delete (Delete.recorder.run (.ofTable table) cursorFirst)).sql ∧
      (Statement.createSequence (CreateSequence.recorder.run (.named table) cachedLast)).sql =
        (Statement.createSequence
          (CreateSequence.recorder.run (.named table) cachedFirst)).sql := by
  intro item term joinFirst filterFirst actionFirst targetFirst filtered restricted
    cursorLast cursorFirst cachedLast cachedFirst table
  obtain ⟨select, insert, update, delete, createSequence⟩ := Statement.orderFree
  refine ⟨(select _ _ _ ?_).1, (insert _ _ _ ?_).1, (update _ _ _ ?_).1,
    (delete _ _ _ ?_).1, (createSequence _ _ _ ?_).1⟩
  · intro clause
    cases clause with
    | on index => cases index <;> rfl
    | _ => rfl
  · intro clause
    cases clause <;> rfl
  · intro clause
    cases clause <;> rfl
  · intro clause
    cases clause <;> rfl
  · intro clause
    cases clause <;> rfl

end ClauseTree
