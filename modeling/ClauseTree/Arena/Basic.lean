import ClauseTree.Tree.Table

/-!
# Arenas

A tree as it is stored while it is written.  The nodes stand in the order in which they
were opened, and a number is a place in that order.  A node lists its children and names
the node that it hangs under, and beside the nodes stands the path of those that are still
open.  So the nesting is written down three times, and no type keeps the three in step.

Each operation changes the arena in place.  One that cannot go on stops at a fault and
leaves the arena as it is at that moment.
-/

namespace ClauseTree

/-- One node of an arena. -/
structure Node where
  kind : NodeKind
  entries : List Entry
  parent : Option Nat

def Node.append (entry : Entry) (node : Node) : Node :=
  { node with entries := node.entries ++ [entry] }

/-- What stops an operation on an arena. -/
inductive Fault where
  /-- A node was looked up under a number that none has. -/
  | missingNode (number : Nat)
  /-- The caller went wrong. -/
  | misuse (error : BuildError)

/-- Nodes that name each other by number, and the path of open nodes, the root first. -/
structure Arena where
  nodes : List Node
  opened : List Nat

namespace Arena

/-- An operation that changes an arena, up to a fault. -/
abbrev Editing : Type → Type :=
  EStateM Fault Arena

/-- An arena with nothing but its root, which is open. -/
def new : Arena :=
  { nodes := [{ kind := .root, entries := [], parent := none }], opened := [0] }

/-- The innermost open node.  The path is never empty, so the root is only named here
for the sake of a total answer. -/
def top (arena : Arena) : Nat :=
  arena.opened.getLast?.getD 0

/-- The number of nodes, the root included. -/
def size (arena : Arena) : Nat :=
  arena.nodes.length

/-- The number of open nodes, the root not counted. -/
def depth (arena : Arena) : Nat :=
  arena.opened.length - 1

/-- Whether nothing hangs under the root. -/
def isEmpty (arena : Arena) : Bool :=
  arena.nodes.head?.all fun root => root.entries.isEmpty

/-! ### Operations -/

/-- Append a child to the node with a number. -/
def appendTo (number : Nat) (entry : Entry) : Editing Unit := do
  let arena ← get
  if number < arena.size then
    set { arena with nodes := arena.nodes.modify number (Node.append entry) }
  else throw (.missingNode number)

/-- Open a node under the innermost open one. -/
def start (kind : NodeKind) : Editing Unit := do
  let arena ← get
  let number := arena.size
  let opening : Node := { kind := kind, entries := [], parent := some arena.top }
  set { arena with nodes := arena.nodes ++ [opening] }
  appendTo arena.top (.node number)
  modify fun arena => { arena with opened := arena.opened ++ [number] }

/-- Append a leaf to the innermost open node. -/
def addLeaf (token : Token) : Editing Unit := do
  let arena ← get
  appendTo arena.top (.leaf token)

def addLeaves (tokens : List Token) : Editing Unit :=
  tokens.forM addLeaf

/-- Close the innermost open node, and tell if there is none but the root. -/
def tryClose : Editing (Except BuildError Unit) := do
  let arena ← get
  if arena.opened.length ≤ 1 then pure (.error .unbalancedEnd)
  else
    set { arena with opened := arena.opened.dropLast }
    pure (.ok ())

/-- Close the innermost open node.  Closing the root is a fault. -/
def close : Editing Unit := do
  match ← tryClose with
  | .ok () => pure ()
  | .error error => throw (.misuse error)

/-- Open a node, go on writing, and close whatever node is innermost then. -/
def withNode (kind : NodeKind) (write : Editing Unit) : Editing Unit := do
  start kind
  write
  close

def perform : Step → Editing Unit
  | .start kind => start kind
  | .leaf token => addLeaf token
  | .close => close

/-- Take steps one after the other, up to a fault. -/
def play (steps : List Step) : Editing Unit :=
  steps.forM perform

/-- Several leaves are added one by one. -/
theorem addLeaves_cons (token : Token) (rest : List Token) :
    addLeaves (token :: rest) = (do addLeaf token; addLeaves rest) :=
  rfl

/-- Steps are taken one by one. -/
theorem play_cons (step : Step) (rest : List Step) :
    play (step :: rest) = (do perform step; play rest) :=
  rfl

/-! ### What the operations do

Of an arena whose open path leads to one of its nodes.
-/

/-- The arena with one more child of the innermost open node. -/
def withEntry (arena : Arena) (entry : Entry) : Arena :=
  { arena with nodes := arena.nodes.modify arena.top (Node.append entry) }

/-- The arena with one more node, opened under the innermost open one. -/
def opening (arena : Arena) (kind : NodeKind) : Arena :=
  { nodes :=
      arena.nodes.modify arena.top (Node.append (.node arena.size)) ++
        [{ kind := kind, entries := [], parent := some arena.top }]
    opened := arena.opened ++ [arena.size] }

/-- The arena with the innermost open node closed. -/
def closing (arena : Arena) : Arena :=
  { arena with opened := arena.opened.dropLast }

private theorem run_appendTo {arena : Arena} {number : Nat} (present : number < arena.size)
    (entry : Entry) :
    (appendTo number entry).run arena =
      .ok () { arena with nodes := arena.nodes.modify number (Node.append entry) } := by
  simp [appendTo, present]

/-- A leaf is listed in the innermost open node. -/
theorem run_addLeaf {arena : Arena} (present : arena.top < arena.size) (token : Token) :
    (addLeaf token).run arena = .ok () (arena.withEntry (.leaf token)) := by
  simp [addLeaf, run_appendTo present, withEntry]

private theorem modify_append_of_lt {α : Type} (change : α → α) (more : List α) :
    ∀ (elements : List α) {i : Nat}, i < elements.length →
      (elements ++ more).modify i change = elements.modify i change ++ more
  | [], _, inside => absurd inside (Nat.not_lt_zero _)
  | _ :: _, 0, _ => rfl
  | element :: rest, i + 1, inside => by
      have ih := modify_append_of_lt change more rest (Nat.lt_of_succ_lt_succ inside)
      rw [List.cons_append, List.modify_succ_cons, ih, List.modify_succ_cons,
        List.cons_append]

/-- Opening a node makes it the last one of the arena and the innermost open one. -/
theorem run_start {arena : Arena} (present : arena.top < arena.size) (kind : NodeKind) :
    (start kind).run arena = .ok () (arena.opening kind) := by
  let added : Node := { kind := kind, entries := [], parent := some arena.top }
  let grown : Arena := { arena with nodes := arena.nodes ++ [added] }
  have stays : arena.top < grown.size := by
    simp only [grown, size, List.length_append]
    exact Nat.lt_add_right _ present
  have appended := run_appendTo stays (.node arena.size)
  rw [modify_append_of_lt _ _ _ present] at appended
  simp [start, grown, added, opening, appended]

/-- Closing is refused exactly when no node but the root is open, and then nothing
changes. -/
theorem run_tryClose (arena : Arena) :
    tryClose.run arena =
      if arena.opened.length ≤ 1 then .ok (.error .unbalancedEnd) arena
      else .ok (.ok ()) arena.closing := by
  by_cases outermost : arena.opened.length ≤ 1
  · simp [tryClose, outermost]
  · simp [tryClose, outermost, closing, -bind_pure_comp]

/-- A failing close leaves the arena as it was. -/
theorem run_close (arena : Arena) :
    close.run arena =
      if arena.opened.length ≤ 1 then .error (.misuse .unbalancedEnd) arena
      else .ok () arena.closing := by
  by_cases outermost : arena.opened.length ≤ 1
  · simp [close, run_tryClose, outermost]
  · simp [close, run_tryClose, outermost]

end Arena

/-! ### The arena of a tree -/

def Row.node (row : Row) : Node :=
  { kind := row.kind, entries := row.entries, parent := row.parent }

/-- The arena that holds a tree. -/
def Tree.arena (tree : Tree) : Arena :=
  { nodes := tree.table.map Row.node, opened := tree.openPath }

end ClauseTree
