import ClauseTree.Proofs.Assembly
import ClauseTree.Proofs.Brackets

/-!
# Strict rendering

An arena refuses two things: closing a node when none is open but the root, and rendering
while nodes are open or nothing has been attached.  It decides by the length of its open path
and the entries of its root, but the answers can be told from the calls alone.

Call by call, the open nodes are those that were opened and not closed since, so what counts
is how many calls have opened a node and how many have succeeded in closing one.  And the root
stays empty exactly as long as every call attaches nothing.  The steps that a statement is
assembled by keep to both rules.
-/

namespace ClauseTree

namespace Arena

/-! ### Counting calls -/

def Call.opens : Call → Bool
  | .start _ => true
  | _ => false

/-- Whether a call attaches anything, a node or a leaf. -/
def Call.attaches : Call → Bool
  | .start _ => true
  | .leaf _ => true
  | .leaves tokens => !tokens.isEmpty
  | .close => false

/-- Whether a call succeeds in closing a node of an arena. -/
def Call.closes (arena : Arena) : Call → Bool
  | .close =>
      match tryClose.run arena with
      | .ok (.ok ()) _ => true
      | _ => false
  | _ => false

def openings (calls : List Call) : Nat :=
  calls.countP Call.opens

/-- The closing calls that succeed, each judged in the arena in which it is made. -/
def closings : Arena → List Call → Nat
  | _, [] => 0
  | arena, call :: rest =>
      closings (arena.afterEdit (.call call)) rest + if call.closes arena then 1 else 0

/-- The arena behind calls on a new one. -/
def behind (calls : List Call) : Arena :=
  new.after (calls.map .call)

/-- What is refused behind calls, and what is not. -/
structure AnswersStrictly (calls : List Call) : Prop where
  /-- Closing is refused exactly when as many nodes have been closed as opened, and then it
  changes nothing. -/
  close : tryClose.run (behind calls) =
    if closings new calls = openings calls then .ok (.error .unbalancedEnd) (behind calls)
    else .ok (.ok ()) (behind calls).closing
  /-- Open nodes are told before anything else, then that nothing has been attached.  Whatever
  else is rendered is rendered as without the checks. -/
  render : ∀ mode, ∃ output, (behind calls).render mode = some output ∧
    (behind calls).strictRender mode =
      if closings new calls < openings calls then
        .error (.unclosedNodes (openings calls - closings new calls))
      else if calls.any Call.attaches then .ok (some output)
      else .error .emptyTree

end Arena

open Arena (Call openings closings behind)

/-! ### One call on a tree -/

namespace Tree

/-- A tree is empty when its top level has no child. -/
theorem isEmpty_eq (tree : Tree) : tree.isEmpty = tree.children.isEmpty := by
  cases tree with
  | here children => cases children <;> rfl
  | inside before kind rest => cases before <;> rfl

private theorem isEmpty_attach (tree : Tree) (more : List Child) :
    (tree.attach more).isEmpty = (tree.isEmpty && more.isEmpty) := by
  cases tree with
  | here children =>
      rw [attach, isEmpty_eq, isEmpty_eq]
      cases children <;> rfl
  | inside before kind rest => rfl

private theorem isEmpty_start (tree : Tree) (kind : NodeKind) :
    (tree.start kind).isEmpty = false := by
  cases tree <;> rfl

private theorem isEmpty_close {tree closed : Tree} (ran : tree.close = .ok closed) :
    closed.isEmpty = tree.isEmpty := by
  obtain ⟨_, again, same, -⟩ := tree.exists_close (depth_pos_of_close ran)
  cases ran.symm.trans again
  rw [isEmpty_eq, same, isEmpty_eq]

/-- A tree is empty behind a call when it was before and the call attaches nothing. -/
theorem isEmpty_call (tree : Tree) (call : Call) :
    (tree.call call).isEmpty = (tree.isEmpty && !call.attaches) := by
  cases call with
  | start kind => rw [Tree.call, isEmpty_start, Call.attaches, Bool.not_true, Bool.and_false]
  | leaf token => exact tree.isEmpty_attach _
  | leaves tokens =>
      rw [Tree.call, addLeaves, isEmpty_attach, List.isEmpty_map, Call.attaches, Bool.not_not]
  | close =>
      rw [Tree.call, Call.attaches, Bool.not_false, Bool.and_true]
      cases closing : tree.close with
      | error error => rfl
      | ok closed => exact isEmpty_close closing

/-- The arena of a tree has as many open nodes as the tree. -/
theorem depth_arena (tree : Tree) : tree.arena.depth = tree.depth := by
  rw [Arena.depth, length_opened, Nat.add_sub_cancel]

/-- The arena of a tree is empty when the tree is. -/
theorem isEmpty_arena (tree : Tree) : tree.arena.isEmpty = tree.isEmpty := by
  rw [Arena.isEmpty, nodes_arena, nodesFrom, List.head?_cons, Option.all_some, isEmpty_eq]
  cases tree.children with
  | nil => rfl
  | cons child rest => rw [childRows_cons]; rfl

/-- Closing the arena of a tree fails exactly at its top level, with the arena unchanged. -/
theorem run_tryClose_arena (tree : Tree) :
    Arena.tryClose.run tree.arena =
      if tree.depth = 0 then .ok (.error .unbalancedEnd) tree.arena
      else .ok (.ok ()) tree.arena.closing := by
  rw [Arena.run_tryClose, length_opened]
  by_cases outermost : tree.depth = 0
  · rw [if_pos outermost, if_pos (by omega)]
  · rw [if_neg outermost, if_neg (by omega)]

/-- One call on the arena of a tree gives the arena of the tree behind that call. -/
theorem afterEdit_call (tree : Tree) (call : Call) :
    tree.arena.afterEdit (.call call) = (tree.call call).arena :=
  Arena.after_map_call [call] tree

/-- The open nodes change by what a call opens and by what it closes. -/
theorem depth_call (tree : Tree) (call : Call) :
    (tree.call call).depth + (if call.closes tree.arena then 1 else 0) =
      tree.depth + if call.opens then 1 else 0 := by
  cases call with
  | start kind => rw [Tree.call, depth_start]; rfl
  | leaf token => rw [Tree.call, addLeaf, depth_attach]; rfl
  | leaves tokens => rw [Tree.call, addLeaves, depth_attach]; rfl
  | close =>
      rw [Call.closes, run_tryClose_arena, Tree.call]
      cases closing : tree.close with
      | error error =>
          rw [if_pos (tree.depth_eq_zero_of_close closing)]
          rfl
      | ok closed =>
          have inner := depth_pos_of_close closing
          rw [if_neg (Nat.ne_of_gt inner)]
          exact (word_close closing).2.symm

/-- Behind any calls the open nodes are those before, and those opened, less those
closed. -/
theorem depth_foldl_call (calls : List Call) : ∀ tree : Tree,
    (calls.foldl Tree.call tree).depth + closings tree.arena calls =
      tree.depth + openings calls := by
  induction calls with
  | nil => exact fun _ => rfl
  | cons call rest ih =>
      intro tree
      have later := ih (tree.call call)
      have now := tree.depth_call call
      rw [List.foldl_cons, closings, afterEdit_call, openings, List.countP_cons]
      rw [openings] at later
      omega

/-- Behind any calls the tree is empty when it was before and no call attaches anything. -/
theorem isEmpty_foldl_call (calls : List Call) : ∀ tree : Tree,
    (calls.foldl Tree.call tree).isEmpty = (tree.isEmpty && !calls.any Call.attaches) := by
  induction calls with
  | nil => exact fun tree => (Bool.and_true _).symm
  | cons call rest ih =>
      intro tree
      rw [List.foldl_cons, ih, isEmpty_call, List.any_cons, Bool.not_or, Bool.and_assoc]

/-- The arena is checked like the tree that it holds. -/
theorem checkComplete_arena (tree : Tree) : tree.arena.checkComplete = tree.checkComplete := by
  rw [Arena.checkComplete, depth_arena, isEmpty_arena]
  rfl

/-- Strict rendering of the arena of a tree: the open nodes are told first, the empty tree
next. -/
theorem strictRender_arena (mode : Mode) (tree : Tree) :
    tree.arena.strictRender mode =
      if 0 < tree.depth then .error (.unclosedNodes tree.depth)
      else if tree.isEmpty then .error .emptyTree
      else .ok (some (tree.render mode)) := by
  rw [Arena.strictRender, checkComplete_arena, checkComplete, Arena.render_arena]
  split
  · rfl
  · split <;> rfl

end Tree

/-! ### Calls on a new arena -/

namespace Arena

private theorem behind_eq (calls : List Call) :
    behind calls = (calls.foldl Tree.call .empty).arena :=
  after_map_call calls .empty

private theorem answersStrictly (calls : List Call) : AnswersStrictly calls := by
  have held := behind_eq calls
  have balance : (calls.foldl Tree.call .empty).depth + closings new calls = openings calls :=
    (Tree.depth_foldl_call calls .empty).trans (Nat.zero_add _)
  have attached : (calls.foldl Tree.call .empty).isEmpty = !calls.any Call.attaches :=
    Tree.isEmpty_foldl_call calls .empty
  generalize calls.foldl Tree.call .empty = tree at held balance attached
  refine ⟨?close, fun mode => ⟨tree.render mode, ?render, ?strict⟩⟩
  case close =>
    -- The counting lemma: the depth is what has been opened less what has been closed.
    have outermost : tree.depth = 0 ↔ closings new calls = openings calls := by omega
    rw [held, tree.run_tryClose_arena]
    simp only [outermost]
  case render => rw [held, render_arena]
  case strict =>
    have count : tree.depth = openings calls - closings new calls := by omega
    rw [held, tree.strictRender_arena, attached, count]
    simp only [Nat.sub_pos_iff_lt]
    cases calls.any Call.attaches <;> rfl

end Arena

/-! ### Statements -/

namespace Statement

/-- Assembling a statement goes well, and what it leaves passes the checks. -/
structure RendersStrictly (statement : Statement) : Prop where
  assembled : (Arena.assemble statement).run .new = .ok () statement.toTree.arena
  complete : statement.toTree.checkComplete = .ok ()
  literal : (statement.toTree.arena.strictRender .literal).map (Option.map Prepared.sql) =
    .ok (some statement.sql)
  prepared : ∀ style, statement.toTree.arena.strictRender (.prepared style) =
    .ok (some (statement.prepared style))

/-- It is enough that a statement leaves something in the tree that it is assembled into. -/
theorem rendersStrictly {statement : Statement} (own : statement.toTree = statement.assembled)
    (written : statement.clauses.isEmpty = false) : statement.RendersStrictly := by
  have tree : statement.toTree = .here statement.clauses := own.trans statement.assembled_eq_here
  have complete : statement.toTree.checkComplete = .ok () := by
    rw [tree, Tree.checkComplete, Tree.isEmpty_eq, Tree.children, written]
    rfl
  have rendered (mode : Mode) :
      statement.toTree.arena.strictRender mode = .ok (some (statement.toTree.render mode)) := by
    rw [Arena.strictRender, Tree.checkComplete_arena, complete, Arena.render_arena]
    rfl
  refine ⟨?assembled, complete, ?literal, fun style => rendered (.prepared style)⟩
  case assembled =>
    rw [tree]
    exact Tree.run_play (statement.writes.play .empty)
  case literal =>
    rw [rendered]
    rfl

end Statement

/-- Strict rendering fails exactly when it should.  Behind any calls, a close is refused when no
node is open, and rendering when one is or when nothing has been attached.  What a statement is
assembled to is never refused. -/
theorem strictRender_exact :
    (∀ calls, Arena.AnswersStrictly calls) ∧
      (∀ query, (Statement.select query).RendersStrictly) ∧
      (∀ insertion, (Statement.insert insertion).RendersStrictly) ∧
      (∀ change, (Statement.update change).RendersStrictly) ∧
      (∀ deletion, (Statement.delete deletion).RendersStrictly) ∧
      ∀ sequence, (Statement.createSequence sequence).RendersStrictly := by
  refine ⟨Arena.answersStrictly, fun query => ?select, fun insertion => ?insert,
    fun change => ?update, fun deletion => ?delete, fun sequence => ?createSequence⟩
  case select =>
    refine Statement.rendersStrictly rfl ?_
    simp [Statement.clauses, Select.clauses]
  case insert =>
    refine Statement.rendersStrictly rfl ?_
    simp [Statement.clauses, Insert.clauses]
  case update =>
    refine Statement.rendersStrictly rfl ?_
    simp [Statement.clauses, Update.clauses]
  case delete =>
    refine Statement.rendersStrictly rfl ?_
    simp [Statement.clauses, Delete.clauses]
  case createSequence =>
    refine Statement.rendersStrictly rfl ?_
    simp [Statement.clauses, CreateSequence.clauses]

end ClauseTree
