import ClauseTree.Arena.Basic
import ClauseTree.Statement

/-!
# Edits

What the owner of an arena can do to it.  Nodes are opened and closed and leaves appended,
one by one or by whole statements; a node can be written by a sequence of edits of its own,
which need not be balanced.  A fault ends the sequence that it happens in, and the owner
goes on with the arena that it leaves.
-/

namespace ClauseTree

namespace Arena

/-- Write the clauses of a statement into the innermost open node. -/
def assemble (statement : Statement) : Editing Unit :=
  play statement.steps

/-- Write terms into the innermost open node. -/
def writeConditions (conditions : Conditions) : Editing Unit :=
  play conditions.steps

/-- A call that cannot end in a fault. -/
inductive Call where
  | start (kind : NodeKind)
  | leaf (token : Token)
  | leaves (tokens : List Token)
  /-- Close a node, or be told that none is open but the root. -/
  | close

def Call.perform : Call → Editing Unit
  | .start kind => Arena.start kind
  | .leaf token => addLeaf token
  | .leaves tokens => addLeaves tokens
  | .close => do
      let _ ← tryClose
      pure ()

/-- Anything that can be done to an arena. -/
inductive Edit where
  | call (call : Call)
  /-- Close a node, or fail. -/
  | close
  /-- Open a node, edit, and close whatever node is innermost then. -/
  | withNode (kind : NodeKind) (edits : List Edit)
  | assemble (statement : Statement)
  | conditions (conditions : Conditions)
  /-- Edit, and go on behind a fault. -/
  | attempt (edits : List Edit)

mutual

def Edit.perform : Edit → Editing Unit
  | .call call => call.perform
  | .close => Arena.close
  | .withNode kind edits => Arena.withNode kind (performAll edits)
  | .assemble statement => Arena.assemble statement
  | .conditions conditions => writeConditions conditions
  | .attempt edits => tryCatch (performAll edits) fun _ => pure ()

def performAll : List Edit → Editing Unit
  | [] => pure ()
  | edit :: rest => do
      edit.perform
      performAll rest

end

/-- The arena that an edit leaves, whether it ends in a fault or not. -/
def afterEdit (arena : Arena) (edit : Edit) : Arena :=
  match edit.perform arena with
  | .ok _ left => left
  | .error _ left => left

/-- The arena behind a sequence of edits, those that fail included. -/
def after (arena : Arena) (edits : List Edit) : Arena :=
  edits.foldl afterEdit arena

end Arena

end ClauseTree
