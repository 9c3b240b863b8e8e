import ClauseTree.Proofs.ArenaTree
import ClauseTree.Proofs.Assembly
import ClauseTree.Proofs.Site

/-!
# Statements that others hold

A statement takes in another one, as the tree that it is at that moment: as a named query,
as the operand of a set operation, as the source of the rows, or in a token of its own, as
the query of an `EXISTS` is.  All of these come down to tokens that are written, and the
traversal of a tree goes through the written tokens in the order in which they are written.
So each of these trees is found in it.
-/

namespace ClauseTree

/-! ### Written tokens -/

def Step.token? : Step → Option Token
  | .leaf token => some token
  | _ => none

/-- The tokens that steps append, in order. -/
def writtenTokens (steps : List Step) : List Token :=
  steps.filterMap Step.token?

private theorem mem_writtenTokens_iff {steps : List Step} {token : Token} :
    token ∈ writtenTokens steps ↔ Step.leaf token ∈ steps := by
  rw [writtenTokens, List.mem_filterMap]
  constructor
  · rintro ⟨step, member, isToken⟩
    cases step with
    | leaf other =>
        cases isToken
        exact member
    | start kind => cases isToken
    | close => cases isToken
  · intro member
    exact ⟨.leaf token, member, rfl⟩

namespace Tree

/-- Children that are attached are met behind all that the tree holds already. -/
theorem traversal_attach (more : List Child) : ∀ tree : Tree,
    (tree.attach more).traversal = tree.traversal ++ childrenTraversal more
  | .here children => childrenTraversal_append children more
  | .inside before kind rest => by
      rw [attach, traversal, traversal, rest.traversal_attach more, List.append_assoc]

/-- An open node holds nothing yet. -/
theorem traversal_start (kind : NodeKind) : ∀ tree : Tree,
    (tree.start kind).traversal = tree.traversal
  | .here children => List.append_nil (childrenTraversal children)
  | .inside before outer rest => by
      rw [start, traversal, traversal, rest.traversal_start kind]

private theorem traversal_eq : ∀ tree : Tree, tree.traversal = childrenTraversal tree.children
  | .here _ => rfl
  | .inside before kind rest => by
      rw [traversal, children, childrenTraversal_append, rest.traversal_eq, childrenTraversal,
        childrenTraversal, Child.traversal, List.append_nil]

/-- Closing moves nothing. -/
theorem traversal_close {tree closed : Tree} (ran : tree.close = .ok closed) :
    closed.traversal = tree.traversal := by
  obtain ⟨_, again, same, _⟩ := tree.exists_close (depth_pos_of_close ran)
  cases ran.symm.trans again
  rw [traversal_eq, same, ← traversal_eq]

/-- The traversal goes through the tokens in the order in which they were appended. -/
theorem traversal_play {steps : List Step} : ∀ {tree result : Tree},
    tree.play steps = .ok result →
      result.traversal = tree.traversal ++ tokensTraversal (writtenTokens steps) := by
  induction steps with
  | nil =>
      intro tree result played
      cases played
      exact (List.append_nil _).symm
  | cons step rest ih =>
      intro tree result played
      cases step with
      | start kind =>
          rw [ih played, traversal_start]
          rfl
      | leaf token =>
          rw [ih played, addLeaf, traversal_attach, List.append_assoc]
          simp [writtenTokens, Step.token?, childrenTraversal, Child.traversal, tokensTraversal]
      -- Steps that end in a result have closed no more nodes than were open.
      | close =>
          rw [play] at played
          cases ran : tree.close with
          | error error =>
              rw [ran] at played
              cases played
          | ok closed =>
              rw [ran] at played
              rw [ih played, traversal_close ran]
              rfl

end Tree

/-- A token is met before what it holds. -/
theorem Token.mem_traversal_self (token : Token) : token ∈ token.traversal := by
  cases token
  exact List.mem_cons_self

private theorem mem_tokensTraversal {tokens : List Token} {token holder : Token}
    (among : token ∈ tokens) (inside : holder ∈ token.traversal) :
    holder ∈ tokensTraversal tokens := by
  induction tokens with
  | nil => cases among
  | cons first rest ih =>
      rw [tokensTraversal]
      rcases List.mem_cons.mp among with rfl | later
      · exact List.mem_append_left _ inside
      · exact List.mem_append_right _ (ih later)

/-- The traversal of an assembled statement is that of the tokens which its steps write, in
their order. -/
theorem Statement.traversal_assembled (statement : Statement) :
    statement.assembled.traversal = tokensTraversal (writtenTokens statement.steps) := by
  have played := Tree.traversal_play (statement.writes.play .empty)
  rwa [← statement.assemble_eq_attach] at played

/-! ### Predicates -/

mutual

/-- The tokens of the predicates of a term, at every depth. -/
def Term.tokens : Term → List Token
  | .predicate tokens => tokens
  | .group items => itemTokens items

def Item.tokens : Item → List Token
  | ⟨_, term⟩ => term.tokens

def itemTokens : List Item → List Token
  | [] => []
  | item :: rest => item.tokens ++ itemTokens rest

end

private theorem writtenTokens_append (first second : List Step) :
    writtenTokens (first ++ second) = writtenTokens first ++ writtenTokens second :=
  List.filterMap_append

private theorem writtenTokens_leaves (tokens : List Token) :
    writtenTokens (tokens.map .leaf) = tokens := by
  rw [writtenTokens, List.filterMap_map]
  exact List.filterMap_some

private theorem writtenTokens_node (kind : NodeKind) (inner : List Step) :
    writtenTokens ([.start kind] ++ inner ++ [.close]) = writtenTokens inner := by
  rw [writtenTokens_append, writtenTokens_append]
  exact List.append_nil _

mutual

private theorem Term.writtenTokens_steps : ∀ term : Term, writtenTokens term.steps = term.tokens
  | .predicate tokens => by
      rw [Term.steps, writtenTokens_node, writtenTokens_leaves, Term.tokens]
  | .group items => by
      rw [Term.steps, writtenTokens_node, writtenTokens_itemSteps items, Term.tokens]

private theorem Item.writtenTokens_steps : ∀ item : Item, writtenTokens item.steps = item.tokens
  | ⟨.lead, term⟩ => term.writtenTokens_steps
  | ⟨.leadNot, term⟩ => (writtenTokens_node .not term.steps).trans term.writtenTokens_steps
  | ⟨.joined connective, term⟩ =>
      (writtenTokens_node connective.kind term.steps).trans term.writtenTokens_steps

private theorem writtenTokens_itemSteps : ∀ items : List Item,
    writtenTokens (itemSteps items) = itemTokens items
  | [] => rfl
  | item :: rest => by
      rw [itemSteps, writtenTokens_append, item.writtenTokens_steps,
        writtenTokens_itemSteps rest, itemTokens]

end

/-- The tokens of all predicates. -/
def Conditions.tokens (conditions : Conditions) : List Token :=
  itemTokens conditions.items

/-- Every token of a predicate, however deep its group is, is written as a leaf of the
clause. -/
theorem Conditions.leaf_mem_clauseSteps {conditions : Conditions} {token : Token}
    (among : token ∈ conditions.tokens) (kind : NodeKind) :
    Step.leaf token ∈ conditions.clauseSteps kind := by
  have leaf : token ∈ writtenTokens conditions.steps := by
    rw [Conditions.steps, writtenTokens_itemSteps]
    exact among
  have some_item : ¬conditions.isEmpty = true := by
    intro empty
    rw [Conditions.tokens, List.isEmpty_iff.mp empty] at among
    cases among
  rw [Conditions.clauseSteps, if_neg some_item]
  exact List.mem_append_left _ (List.mem_append_right _ (mem_writtenTokens_iff.mp leaf))

/-! ### Taking in a statement -/

/-- The named queries in front. -/
def Statement.withClause? : Statement → Option With
  | .select query => query.withClause
  | .insert insertion => insertion.withClause
  | .update change => change.withClause
  | .delete deletion => deletion.withClause
  | .createSequence _ => none
  | .tree _ => none

/-- The conditions of a conflict clause stand behind the update, or else behind the columns. -/
def OnConflict.writtenConditions (conflict : OnConflict) : List Conditions :=
  if conflict.assignments.isEmpty then
    match conflict.target with
    | .columns _ => [conflict.filter]
    | _ => []
  else [conflict.filter]

/-- The conditions that leave a clause.  A cursor takes their place. -/
def Statement.writtenConditions : Statement → List Conditions
  | .select query => query.filter :: query.having :: query.joins.map Join.on
  | .insert insertion => insertion.onConflict.toList.flatMap OnConflict.writtenConditions
  | .update change => if change.cursor.isSome then [] else [change.filter]
  | .delete deletion => if deletion.cursor.isSome then [] else [deletion.filter]
  | .createSequence _ => []
  | .tree _ => []

/-- The ways in which a statement takes in another one, as the tree that it is then. -/
inductive Statement.TakesIn (tree : Tree) : Statement → Prop where
  | named {statement : Statement} {clause : With} {cte : Cte}
      (front : statement.withClause? = some clause) (among : cte ∈ clause.ctes)
      (query : cte.query = tree) : TakesIn tree statement
  | operand {query : Select} {operator : SetOperator}
      (among : (operator, tree) ∈ query.setOperations) : TakesIn tree (.select query)
  | rows {insertion : Insert} (source : insertion.source = .query tree) :
      TakesIn tree (.insert insertion)
  /-- Inside of a token of a predicate, as in an `EXISTS`. -/
  | predicate {statement : Statement} {conditions : Conditions} {token holder : Token}
      (clause : conditions ∈ statement.writtenConditions) (among : token ∈ conditions.tokens)
      (inside : holder ∈ token.traversal) (holds : holder.Holds tree) : TakesIn tree statement
  /-- Inside of any token that is written.  A tree by hand is not written again. -/
  | token {statement : Statement} {token holder : Token}
      (recorded : statement.toTree = statement.assembled)
      (written : Step.leaf token ∈ statement.steps) (inside : holder ∈ token.traversal)
      (holds : holder.Holds tree) : TakesIn tree statement
  | byHand {written : Tree} {holder : Token} (inside : holder ∈ written.traversal)
      (holds : holder.Holds tree) : TakesIn tree (.tree written)

private theorem OnConflict.leaf_mem_steps {conflict : OnConflict} {conditions : Conditions}
    {token : Token} (clause : conditions ∈ conflict.writtenConditions)
    (among : token ∈ conditions.tokens) : Step.leaf token ∈ conflict.steps := by
  have leaf := conditions.leaf_mem_clauseSteps among
  by_cases noUpdate : conflict.assignments.isEmpty = true
  · rw [writtenConditions, if_pos noUpdate] at clause
    cases target : conflict.target with
    | columns tokens =>
        rw [target] at clause
        cases List.mem_singleton.mp clause
        simp [steps, targetSteps, target, noUpdate, leaf]
    | any =>
        rw [target] at clause
        cases clause
    | onConstraint name =>
        rw [target] at clause
        cases clause
  · rw [writtenConditions, if_neg noUpdate] at clause
    cases List.mem_singleton.mp clause
    simp [steps, actionSteps, noUpdate, leaf]

namespace Statement

/-- What a written token holds is met in the tree of the statement. -/
theorem mem_traversal_toTree {statement : Statement} {token holder : Token}
    (recorded : statement.toTree = statement.assembled)
    (written : Step.leaf token ∈ statement.steps) (inside : holder ∈ token.traversal) :
    holder ∈ statement.toTree.traversal := by
  rw [recorded, traversal_assembled]
  exact mem_tokensTraversal (mem_writtenTokens_iff.mpr written) inside

/-- A named query is written as a sub-query. -/
theorem leaf_mem_steps_of_named {statement : Statement} {clause : With} {cte : Cte}
    (front : statement.withClause? = some clause) (among : cte ∈ clause.ctes) :
    Step.leaf (.subQuery cte.query) ∈ statement.steps := by
  have clauseStep : Step.leaf (.subQuery cte.query) ∈ With.optionalSteps (some clause) := by
    have some_query : ¬clause.isEmpty = true := fun empty =>
      List.ne_nil_of_mem among (List.isEmpty_iff.mp empty)
    rw [With.optionalSteps, With.steps, if_neg some_query]
    refine List.mem_append_left _ (List.mem_append_right _ (List.mem_flatMap.mpr ⟨cte, among, ?_⟩))
    simp [Cte.steps]
  cases statement with
  | select query =>
      rw [← (show query.withClause = some clause from front)] at clauseStep
      simp [steps, Select.steps, clauseStep]
  | insert insertion =>
      rw [← (show insertion.withClause = some clause from front)] at clauseStep
      simp [steps, Insert.steps, clauseStep]
  | update change =>
      rw [← (show change.withClause = some clause from front)] at clauseStep
      simp [steps, Update.steps, clauseStep]
  | delete deletion =>
      rw [← (show deletion.withClause = some clause from front)] at clauseStep
      simp [steps, Delete.steps, clauseStep]
  | createSequence sequence => cases front
  | tree written => cases front

/-- The tokens of the conditions that a statement writes are among its leaves. -/
theorem leaf_mem_steps_of_predicate {statement : Statement} {conditions : Conditions}
    {token : Token} (clause : conditions ∈ statement.writtenConditions)
    (among : token ∈ conditions.tokens) : Step.leaf token ∈ statement.steps := by
  have leaf := conditions.leaf_mem_clauseSteps among
  cases statement with
  | select query =>
      rcases List.mem_cons.mp clause with rfl | others
      · simp [steps, Select.steps, leaf]
      rcases List.mem_cons.mp others with rfl | ons
      · simp [steps, Select.steps, leaf]
      · obtain ⟨join, member, rfl⟩ := List.mem_map.mp ons
        have step : Step.leaf token ∈ query.joins.flatMap Join.steps :=
          List.mem_flatMap.mpr ⟨join, member, by simp [Join.steps, leaf]⟩
        simp [steps, Select.steps, step]
  | insert insertion =>
      obtain ⟨conflict, present, own⟩ := List.mem_flatMap.mp clause
      have step := conflict.leaf_mem_steps own among
      simp [steps, Insert.steps, Option.mem_toList.mp present, step]
  | update change =>
      cases cursor : change.cursor with
      | none =>
          rw [writtenConditions, cursor] at clause
          cases List.mem_singleton.mp clause
          simp [steps, Update.steps, filterSteps, cursor, leaf]
      | some name =>
          rw [writtenConditions, cursor] at clause
          cases clause
  | delete deletion =>
      cases cursor : deletion.cursor with
      | none =>
          rw [writtenConditions, cursor] at clause
          cases List.mem_singleton.mp clause
          simp [steps, Delete.steps, filterSteps, cursor, leaf]
      | some name =>
          rw [writtenConditions, cursor] at clause
          cases clause
  | createSequence sequence => cases clause
  | tree written => cases clause

/-- Whichever way a statement takes a tree in, a token that holds it is met in the
traversal. -/
theorem TakesIn.occurs {statement : Statement} {tree : Tree} (takes : statement.TakesIn tree) :
    ∃ (met : List Token) (holder : Token) (later : List Token),
      statement.toTree.traversal = met ++ holder :: later ∧ holder.Holds tree := by
  suffices ∃ holder ∈ statement.toTree.traversal, holder.Holds tree by
    obtain ⟨holder, member, holds⟩ := this
    obtain ⟨met, later, occurs⟩ := List.append_of_mem member
    exact ⟨met, holder, later, occurs, holds⟩
  cases takes with
  | @named statement clause cte front among query =>
      have recorded : statement.toTree = statement.assembled := by
        cases statement with
        | tree written => cases front
        | _ => rfl
      exact ⟨.subQuery cte.query,
        mem_traversal_toTree recorded (leaf_mem_steps_of_named front among)
          (Token.mem_traversal_self _),
        .inl (congrArg _ query)⟩
  | @operand query operator among =>
      have written : Step.leaf (.statement tree) ∈ query.setOperations.flatMap
          Select.setOperationSteps :=
        List.mem_flatMap.mpr ⟨(operator, tree), among, by simp [Select.setOperationSteps]⟩
      refine ⟨.statement tree, mem_traversal_toTree rfl ?_ (Token.mem_traversal_self _), .inr rfl⟩
      simp [steps, Select.steps, written]
  | @rows insertion source =>
      refine ⟨.statement tree, mem_traversal_toTree rfl ?_ (Token.mem_traversal_self _), .inr rfl⟩
      simp [steps, Insert.steps, Insert.sourceSteps, source]
  | @predicate statement conditions token holder clause among inside holds =>
      have recorded : statement.toTree = statement.assembled := by
        cases statement with
        | tree written => cases clause
        | _ => rfl
      exact ⟨holder,
        mem_traversal_toTree recorded (leaf_mem_steps_of_predicate clause among) inside, holds⟩
  | @token statement token holder recorded written inside holds =>
      exact ⟨holder, mem_traversal_toTree recorded written inside, holds⟩
  | @byHand written holder inside holds => exact ⟨holder, inside, holds⟩

end Statement

end ClauseTree
