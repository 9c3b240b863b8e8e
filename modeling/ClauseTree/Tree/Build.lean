import ClauseTree.BuildError
import ClauseTree.Token.Make

/-!
# Writing a tree

Nodes are opened and closed like brackets, and leaves go to the innermost open
node.  Closing fails when only the root is open, and leaves the tree as it was.
-/

namespace ClauseTree

namespace Tree

/-- A tree with nothing under its root. -/
def empty : Tree := .here []

/-- Append children to the innermost open node. -/
def attach (more : List Child) : Tree → Tree
  | .here children => .here (children ++ more)
  | .inside before kind rest => .inside before kind (rest.attach more)

/-- Open a node under the innermost open one. -/
def start (kind : NodeKind) : Tree → Tree
  | .here children => .inside children kind (.here [])
  | .inside before outer rest => .inside before outer (rest.start kind)

/-- Append one leaf to the innermost open node. -/
def addLeaf (tree : Tree) (token : Token) : Tree :=
  tree.attach [.leaf token]

/-- Append leaves in order to the innermost open node. -/
def addLeaves (tree : Tree) (tokens : List Token) : Tree :=
  tree.attach (tokens.map .leaf)

/-- Close the innermost open node. -/
def close : Tree → Except BuildError Tree
  | .here _ => .error .unbalancedEnd
  | .inside before kind (.here children) =>
      .ok (.here (before ++ [.node kind children]))
  | .inside before kind rest => rest.close.map (.inside before kind)

/-- The number of open nodes, the root not counted. -/
def depth : Tree → Nat
  | .here _ => 0
  | .inside _ _ rest => rest.depth + 1

/-- The children of the root, with every open node closed where it stands. -/
def children : Tree → List Child
  | .here children => children
  | .inside before kind rest => before ++ [.node kind rest.children]

/-- Whether nothing hangs under the root. -/
def isEmpty : Tree → Bool
  | .here [] => true
  | _ => false

/-- The tree as the only leaf of a new tree. -/
def wrapped (tree : Tree) : Tree :=
  .here [.leaf (.statement tree)]

end Tree

mutual

/-- The number of inner nodes of a child, itself included.  The nodes of a tree
that a leaf holds are not counted. -/
def Child.nodeCount : Child → Nat
  | .leaf _ => 0
  | .node _ children => nodeCounts children + 1

/-- The number of inner nodes of several children. -/
def nodeCounts : List Child → Nat
  | [] => 0
  | child :: rest => child.nodeCount + nodeCounts rest

end

/-- The number of nodes, the root included. -/
def Tree.size (tree : Tree) : Nat :=
  nodeCounts tree.children + 1

/-! ### Steps -/

/-- One step of writing: a node is opened, a leaf is appended, or a node is closed. -/
inductive Step where
  | start (kind : NodeKind)
  | leaf (token : Token)
  | close

namespace Tree

/-- Take steps one after the other, up to one that fails. -/
def play : Tree → List Step → Except BuildError Tree
  | tree, [] => .ok tree
  | tree, .start kind :: rest => (tree.start kind).play rest
  | tree, .leaf token :: rest => (tree.addLeaf token).play rest
  | tree, .close :: rest =>
      match tree.close with
      | .error error => .error error
      | .ok closed => closed.play rest

/-- Take steps that cannot fail.  Steps that do leave the tree as it was. -/
def written (tree : Tree) (steps : List Step) : Tree :=
  (tree.play steps).toOption.getD tree

/-- Attaching nothing changes nothing. -/
@[simp] theorem attach_nil : ∀ tree : Tree, tree.attach [] = tree
  | .here _ => by simp [attach]
  | .inside _ _ rest => by simp [attach, attach_nil rest]

/-- Attaching twice is attaching once. -/
@[simp] theorem attach_attach : ∀ (tree : Tree) (first second : List Child),
    (tree.attach first).attach second = tree.attach (first ++ second)
  | .here _, _, _ => by simp [attach]
  | .inside _ _ rest, first, second => by simp [attach, attach_attach rest first second]

/-- Opening a node, writing children into it and closing it attaches one node. -/
theorem close_attach_start : ∀ (tree : Tree) (kind : NodeKind) (inner : List Child),
    ((tree.start kind).attach inner).close = .ok (tree.attach [.node kind inner])
  | .here _, _, _ => by simp [start, attach, close]
  | .inside before outer rest, kind, inner => by
      have ih := close_attach_start rest kind inner
      cases rest <;> simp_all [start, attach, close, Except.map]

/-- Attaching opens and closes nothing. -/
@[simp] theorem depth_attach : ∀ (tree : Tree) (more : List Child),
    (tree.attach more).depth = tree.depth
  | .here _, _ => rfl
  | .inside _ _ rest, more => by simp [attach, depth, depth_attach rest more]

/-- Opening a node makes the path of open nodes one longer. -/
@[simp] theorem depth_start : ∀ (tree : Tree) (kind : NodeKind),
    (tree.start kind).depth = tree.depth + 1
  | .here _, _ => rfl
  | .inside _ _ rest, kind => by simp [start, depth, depth_start rest kind]

end Tree

/-- Whatever tree they start from and whatever follows, these steps close the nodes that
they open, and attach these children. -/
def Writes (steps : List Step) (children : List Child) : Prop :=
  ∀ (tree : Tree) (rest : List Step),
    tree.play (steps ++ rest) = (tree.attach children).play rest

namespace Writes

variable {steps more inner : List Step} {children others : List Child}

/-- Doing nothing writes nothing. -/
theorem nil : Writes [] [] := by
  intro tree rest
  rw [Tree.attach_nil]
  rfl

/-- What is written by one sequence of steps and then by another stands side by side. -/
theorem append (first : Writes steps children) (second : Writes more others) :
    Writes (steps ++ more) (children ++ others) := by
  intro tree rest
  rw [List.append_assoc, first, second, Tree.attach_attach]

/-- A leaf is one child. -/
theorem leaf (token : Token) : Writes [.leaf token] [.leaf token] :=
  fun _ _ => rfl

/-- Tokens become leaves in their order. -/
theorem leaves (tokens : List Token) : Writes (tokens.map .leaf) (tokens.map .leaf) := by
  induction tokens with
  | nil => exact nil
  | cons token rest ih => exact (leaf token).append ih

/-- What is written between opening a node and closing it stands in that node. -/
theorem node (kind : NodeKind) (writes : Writes inner children) :
    Writes ([.start kind] ++ inner ++ [.close]) [.node kind children] := by
  intro tree rest
  calc tree.play ([.start kind] ++ inner ++ [.close] ++ rest)
      = (tree.start kind).play (inner ++ (.close :: rest)) := by
        rw [List.append_assoc, List.append_assoc]
        rfl
    _ = ((tree.start kind).attach children).play (.close :: rest) := writes _ _
    _ = (tree.attach [.node kind children]).play rest := by
        rw [Tree.play, tree.close_attach_start]

/-- Steps that write one child for each element write the children in the order of the
elements. -/
theorem flatMap {α : Type} {step : α → List Step} {child : α → Child}
    (each : ∀ element, Writes (step element) [child element]) (elements : List α) :
    Writes (elements.flatMap step) (elements.map child) := by
  induction elements with
  | nil => exact nil
  | cons element rest ih => exact (each element).append ih

/-- Something that may be missing. -/
theorem option {α : Type} {step : α → List Step} {child : α → Child}
    (each : ∀ element, Writes (step element) [child element]) (element : Option α) :
    Writes ((element.map step).getD []) (element.map child).toList := by
  cases element with
  | none => exact nil
  | some element => exact each element

/-- Something that is left out on a condition. -/
theorem absentIf (absent : Bool) (writes : Writes steps children) :
    Writes (if absent then [] else steps) (if absent then [] else children) := by
  split
  · exact nil
  · exact writes

/-- Something that is there on a condition. -/
theorem presentIf (present : Bool) (writes : Writes steps children) :
    Writes (if present then steps else []) (if present then children else []) := by
  split
  · exact writes
  · exact nil

/-- Such steps never fail. -/
theorem play (writes : Writes steps children) (tree : Tree) :
    tree.play steps = .ok (tree.attach children) := by
  have result := writes tree []
  rwa [List.append_nil] at result

/-- What such steps write stands behind what the tree has already, in its innermost open
node. -/
theorem written (writes : Writes steps children) (tree : Tree) :
    tree.written steps = tree.attach children := by
  rw [Tree.written, writes.play]
  rfl

end Writes

end ClauseTree
