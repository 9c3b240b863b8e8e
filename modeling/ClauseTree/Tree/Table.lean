import ClauseTree.Tree.Build

/-!
# Node tables

A tree as a table of its nodes in the order in which they were opened.  The
root has number zero, a parent stands before its children, and the children of
a row are named by number.  The path of open nodes leads from the root to the
place where writing goes on.
-/

namespace ClauseTree

/-- A child as a row of the table names it. -/
inductive Entry where
  | leaf (token : Token)
  | node (number : Nat)

/-- One node of a tree. -/
structure Row where
  number : Nat
  kind : NodeKind
  parent : Option Nat
  entries : List Entry

mutual

/-- The entry of a child and the rows that it takes up, from the next free
number on. -/
def Child.rows (parent next : Nat) : Child → Entry × List Row
  | .leaf token => (.leaf token, [])
  | .node kind children =>
      let (entries, rows) := childRows next (next + 1) children
      (.node next, ⟨next, kind, some parent, entries⟩ :: rows)

/-- The entries of several children and the rows that they take up. -/
def childRows (parent next : Nat) : List Child → List Entry × List Row
  | [] => ([], [])
  | child :: rest =>
      let (entry, rows) := child.rows parent next
      let (entries, more) := childRows parent (next + rows.length) rest
      (entry :: entries, rows ++ more)

end

namespace Tree

/-- The nodes of a tree, the root first. -/
def table (tree : Tree) : List Row :=
  let (entries, rows) := childRows 0 1 tree.children
  ⟨0, .root, none, entries⟩ :: rows

/-- The open nodes below one of them, outermost first. -/
def openBelow (number : Nat) : Tree → List Nat
  | .here _ => []
  | .inside before _ rest =>
      let opened := number + 1 + nodeCounts before
      opened :: rest.openBelow opened

/-- The open nodes, from the root to the innermost. -/
def openPath (tree : Tree) : List Nat :=
  0 :: tree.openBelow 0

end Tree

end ClauseTree
