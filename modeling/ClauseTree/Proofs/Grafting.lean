import ClauseTree.Proofs.ArenaTree
import ClauseTree.Proofs.Assembly

/-!
# Writing into any arena

A statement or a condition is written in the same way wherever writing has come to.  What it
leaves under the root of a new arena is what it leaves in any other one under the innermost
open node.  Only the numbers differ: they start behind the nodes that are there already.

So it opens and closes nodes of its own only, and no other node than the innermost open one
gets a child.
-/

namespace ClauseTree

/-! ### Other numbers -/

def Entry.renumber (rename : Nat → Nat) : Entry → Entry
  | .leaf token => .leaf token
  | .node number => .node (rename number)

def Node.renumber (rename : Nat → Nat) (node : Node) : Node :=
  { kind := node.kind
    entries := node.entries.map (Entry.renumber rename)
    parent := node.parent.map rename }

section

variable {rename : Nat → Nat}

mutual

/-- The rows of a child depend on where they start by their numbers alone. -/
theorem Child.rows_renumber (parent : Nat) {next next' : Nat}
    (free : ∀ i, rename (next + i) = next' + i) : ∀ child : Child,
    (child.rows (rename parent) next').1 = (child.rows parent next).1.renumber rename ∧
      (child.rows (rename parent) next').2.map Row.node =
        ((child.rows parent next).2.map Row.node).map (Node.renumber rename)
  | .leaf _ => ⟨rfl, rfl⟩
  | .node kind children => by
      have first : rename next = next' := free 0
      have behind : ∀ i, rename (next + 1 + i) = next' + 1 + i := by
        intro i
        rw [Nat.add_assoc, free, Nat.add_assoc]
      obtain ⟨entries, rows⟩ := childRows_renumber next behind children
      rw [first] at entries rows
      refine ⟨?_, ?_⟩
      · simp only [Child.rows, Entry.renumber, first]
      · simp only [Child.rows, List.map_cons, rows, Row.node, Node.renumber, entries,
          Option.map_some]

private theorem childRows_renumber (parent : Nat) {next next' : Nat}
    (free : ∀ i, rename (next + i) = next' + i) : ∀ children : List Child,
    (childRows (rename parent) next' children).1 =
        (childRows parent next children).1.map (Entry.renumber rename) ∧
      (childRows (rename parent) next' children).2.map Row.node =
        ((childRows parent next children).2.map Row.node).map (Node.renumber rename)
  | [] => ⟨rfl, rfl⟩
  | child :: rest => by
      have behind : ∀ i, rename (next + child.nodeCount + i) = next' + child.nodeCount + i := by
        intro i
        rw [Nat.add_assoc, free, Nat.add_assoc]
      obtain ⟨entry, rows⟩ := child.rows_renumber parent free
      obtain ⟨entries, more⟩ := childRows_renumber parent behind rest
      rw [childRows_cons, childRows_cons]
      refine ⟨?_, ?_⟩
      · rw [entry, entries, List.map_cons]
      · rw [List.map_append, rows, more, ← List.map_append, ← List.map_append]

end

end

/-! ### Grafts -/

namespace Arena

/-- The place of a node of another arena.  The root falls together with the innermost open
node, and the others stand behind the nodes that there are. -/
def placed (arena : Arena) (number : Nat) : Nat :=
  if number = 0 then arena.top else number + (arena.size - 1)

/-- The arena with the content of another one: the innermost open node gets the children of
its root, and its other nodes are added. -/
def graft (arena other : Arena) : Arena :=
  match other.nodes with
  | [] => arena
  | root :: inner =>
      { nodes :=
          arena.nodes.modify arena.top
              (Node.appendAll (root.entries.map (Entry.renumber arena.placed))) ++
            inner.map (Node.renumber arena.placed)
        opened := arena.opened }

/-- An operation leaves no node open in a new arena, and leaves in this one what it leaves
there. -/
def Grafts (write : Editing Unit) (arena : Arena) : Prop :=
  ∃ fresh, write.run new = .ok () fresh ∧ fresh.opened = new.opened ∧
    write.run arena = .ok () (arena.graft fresh)

private theorem graft_extend {arena : Arena} (nonempty : 0 < arena.size) (children : List Child) :
    arena.graft (new.extend children) = arena.extend children := by
  have behind : ∀ i, arena.placed (1 + i) = arena.size + i := by
    intro i
    rw [placed, if_neg (by omega)]
    omega
  obtain ⟨entries, rows⟩ := childRows_renumber 0 behind children
  rw [placed, if_pos rfl] at entries rows
  have fresh : new.extend children =
      { nodes := nodesFrom 0 .root none children, opened := [0] } := rfl
  rw [fresh, extend, entries, rows]
  rfl

private theorem grafts_play {steps : List Step} {children : List Child}
    (writes : Writes steps children) (tree : Tree) : Grafts (play steps) tree.arena := by
  refine ⟨new.extend children, writes.run .empty, rfl, ?_⟩
  have nonempty : 0 < tree.arena.size := Nat.lt_of_le_of_lt (Nat.zero_le _) tree.top_lt_size
  rw [writes.run tree, graft_extend nonempty]

/-- Whatever has been done to an arena before, a statement and a condition are written into it
as they are written into a new one. -/
theorem after_grafts (edits : List Edit) :
    (∀ statement, Grafts (assemble statement) (new.after edits)) ∧
      ∀ conditions, Grafts (writeConditions conditions) (new.after edits) := by
  obtain ⟨tree, held⟩ := exists_tree edits
  rw [← held]
  refine ⟨fun statement => grafts_play statement.writes tree, fun conditions => ?_⟩
  exact grafts_play (writes_itemSteps conditions.items) tree

end Arena

end ClauseTree
