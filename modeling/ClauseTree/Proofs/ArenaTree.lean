import ClauseTree.Proofs.Edits

/-!
# The tree in an arena

Every arena that edits lead to holds a tree: its nodes are the rows of the tree's table, and
its open path is the tree's.  So an operation on the arena can be compared with the
operation on the tree that has the same name.

Children that are attached to a tree take up the numbers behind those that are taken, and
are listed by the innermost open node.
-/

namespace ClauseTree

/-! ### Rows -/

mutual

/-- A child takes as many rows of the table as it has nodes. -/
theorem Child.length_rows (parent next : Nat) : ∀ child : Child,
    (child.rows parent next).2.length = child.nodeCount
  | .leaf _ => rfl
  | .node _ children => by
      rw [Child.rows, List.length_cons, length_childRows, Child.nodeCount]

private theorem length_childRows (parent next : Nat) : ∀ children : List Child,
    (childRows parent next children).2.length = nodeCounts children
  | [] => rfl
  | child :: rest => by
      rw [childRows, List.length_append, child.length_rows, length_childRows, nodeCounts]

end

/-- The nodes of two lists of children add up. -/
@[simp] theorem nodeCounts_append : ∀ first second : List Child,
    nodeCounts (first ++ second) = nodeCounts first + nodeCounts second
  | [], _ => (Nat.zero_add _).symm
  | child :: rest, second => by
      rw [List.cons_append, nodeCounts, nodeCounts, nodeCounts_append rest, Nat.add_assoc]

/-- The rows of a child come first, and those of its siblings are numbered behind them. -/
theorem childRows_cons (parent next : Nat) (child : Child) (rest : List Child) :
    childRows parent next (child :: rest) =
      ((child.rows parent next).1 :: (childRows parent (next + child.nodeCount) rest).1,
        (child.rows parent next).2 ++ (childRows parent (next + child.nodeCount) rest).2) := by
  rw [childRows, ← child.length_rows parent next]

private theorem childRows_append (parent : Nat) : ∀ (next : Nat) (first second : List Child),
    childRows parent next (first ++ second) =
      ((childRows parent next first).1 ++
          (childRows parent (next + nodeCounts first) second).1,
        (childRows parent next first).2 ++
          (childRows parent (next + nodeCounts first) second).2)
  | _, [], _ => rfl
  | next, child :: rest, second => by
      rw [List.cons_append, childRows_cons, childRows_append parent _ rest, childRows_cons,
        nodeCounts, Nat.add_assoc, List.cons_append, List.append_assoc]

/-- A node with its children, from a number on. -/
def nodesFrom (number : Nat) (kind : NodeKind) (parent : Option Nat)
    (children : List Child) : List Node :=
  { kind := kind, entries := (childRows number (number + 1) children).1, parent := parent } ::
    (childRows number (number + 1) children).2.map Row.node

/-- The nodes of an arena are the table of its tree, with the root as number zero. -/
theorem Tree.nodes_arena (tree : Tree) : tree.arena.nodes = nodesFrom 0 .root none tree.children :=
  rfl

private theorem length_nodesFrom (number : Nat) (kind : NodeKind) (parent : Option Nat)
    (children : List Child) :
    (nodesFrom number kind parent children).length = nodeCounts children + 1 := by
  rw [nodesFrom, List.length_cons, List.length_map, length_childRows]

/-- The nodes of a node whose last child is one, up to that child. -/
def nodesBefore (number : Nat) (kind : NodeKind) (parent : Option Nat)
    (before : List Child) : List Node :=
  { kind := kind
    entries :=
      (childRows number (number + 1) before).1 ++ [.node (number + 1 + nodeCounts before)]
    parent := parent } ::
    (childRows number (number + 1) before).2.map Row.node

/-- A node and what is finished in front of its open child take these numbers. -/
theorem length_nodesBefore (number : Nat) (kind : NodeKind) (parent : Option Nat)
    (before : List Child) :
    (nodesBefore number kind parent before).length = 1 + nodeCounts before := by
  rw [nodesBefore, List.length_cons, List.length_map, length_childRows, Nat.add_comm]

/-- The table of a node goes on with the table of its last child. -/
theorem nodesFrom_concat (number : Nat) (kind : NodeKind) (parent : Option Nat)
    (before : List Child) (last : NodeKind) (inner : List Child) :
    nodesFrom number kind parent (before ++ [.node last inner]) =
      nodesBefore number kind parent before ++
        nodesFrom (number + 1 + nodeCounts before) last (some number) inner := by
  simp only [nodesFrom, nodesBefore, childRows_append, childRows, Child.rows, List.map_append,
    List.map_cons, List.cons_append, List.append_nil]
  rfl

/-! ### The innermost open node -/

namespace Tree

/-- The innermost open node, from the number of the outermost one on. -/
def innermost (number : Nat) : Tree → Nat
  | .here _ => number
  | .inside before _ rest => rest.innermost (number + 1 + nodeCounts before)

private theorem innermost_eq_add : ∀ (tree : Tree) (number : Nat),
    tree.innermost number = number + tree.innermost 0
  | .here _, _ => rfl
  | .inside before _ rest, number => by
      rw [innermost, innermost, rest.innermost_eq_add, rest.innermost_eq_add (0 + 1 + _)]
      omega

private theorem getLast?_openBelow : ∀ (tree : Tree) (number : Nat),
    (number :: tree.openBelow number).getLast? = some (tree.innermost number)
  | .here _, _ => rfl
  | .inside before _ rest, number => by
      rw [openBelow, List.getLast?_cons_cons, rest.getLast?_openBelow, innermost]

private theorem top_arena (tree : Tree) : tree.arena.top = tree.innermost 0 := by
  rw [Arena.top, show tree.arena.opened = 0 :: tree.openBelow 0 from rfl,
    tree.getLast?_openBelow]
  rfl

/-- An arena has as many nodes as its tree. -/
theorem size_arena (tree : Tree) : tree.arena.size = tree.size := by
  rw [Arena.size, nodes_arena, length_nodesFrom, size]

/-- The nodes of a tree are the root, the finished ones, and those of the open part. -/
theorem size_inside (before : List Child) (kind : NodeKind) (rest : Tree) :
    (Tree.inside before kind rest).size = 1 + nodeCounts before + rest.size := by
  simp only [size, children, nodeCounts_append, nodeCounts, Child.nodeCount]
  omega

private theorem innermost_lt_size : ∀ tree : Tree, tree.innermost 0 < tree.size
  | .here _ => Nat.succ_pos _
  | .inside before kind rest => by
      have below := rest.innermost_lt_size
      rw [innermost, rest.innermost_eq_add, size_inside]
      omega

/-- The innermost open node of an arena that stores a tree exists. -/
theorem top_lt_size (tree : Tree) : tree.arena.top < tree.arena.size := by
  rw [top_arena, size_arena]
  exact tree.innermost_lt_size

/-! ### Attaching -/

/-- Attaching children leaves the path of open nodes as it is. -/
@[simp] theorem openBelow_attach (more : List Child) : ∀ (tree : Tree) (number : Nat),
    (tree.attach more).openBelow number = tree.openBelow number
  | .here _, _ => rfl
  | .inside before kind rest, number => by
      rw [attach, openBelow, openBelow, openBelow_attach]

end Tree

private theorem modify_length_add {α : Type} (change : α → α) (rest : List α) (i : Nat) :
    ∀ before : List α,
      (before ++ rest).modify (before.length + i) change = before ++ rest.modify i change
  | [] => by rw [List.length_nil, Nat.zero_add, List.nil_append, List.nil_append]
  | element :: before => by
      rw [List.length_cons, Nat.add_right_comm, List.cons_append, List.modify_succ_cons,
        modify_length_add change rest i before, List.cons_append]

def Node.appendAll (more : List Entry) (node : Node) : Node :=
  { node with entries := node.entries ++ more }

/-- The arena with children written into its innermost open node. -/
def Arena.extend (arena : Arena) (more : List Child) : Arena :=
  let added := childRows arena.top arena.size more
  { arena with
    nodes := arena.nodes.modify arena.top (Node.appendAll added.1) ++ added.2.map Row.node }

namespace Tree

/-- Attaching changes the table in two places: the innermost open node lists the new
children, and their rows stand behind the others. -/
theorem nodesFrom_attach (more : List Child) :
    ∀ (tree : Tree) (number : Nat) (kind : NodeKind) (parent : Option Nat),
      let added := childRows (tree.innermost number) (number + tree.size) more
      nodesFrom number kind parent (tree.attach more).children =
        (nodesFrom number kind parent tree.children).modify (tree.innermost 0)
          (Node.appendAll added.1) ++ added.2.map Row.node
  | .here children, number, kind, parent => by
      have behind : number + 1 + nodeCounts children = number + (Tree.here children).size := by
        rw [size, Tree.children]
        omega
      simp only [attach, Tree.children, nodesFrom, childRows_append, innermost, behind,
        List.modify_zero_cons, Node.appendAll, List.map_append, List.cons_append]
  | .inside before inner rest, number, kind, parent => by
      have ih := nodesFrom_attach more rest (number + 1 + nodeCounts before) inner (some number)
      have place : (Tree.inside before inner rest).innermost 0 =
          (nodesBefore number kind parent before).length + rest.innermost 0 := by
        rw [innermost, rest.innermost_eq_add, length_nodesBefore, Nat.zero_add]
      have free : number + (Tree.inside before inner rest).size =
          number + 1 + nodeCounts before + rest.size := by
        rw [size_inside]
        omega
      simp only [attach, Tree.children, nodesFrom_concat, place, free, modify_length_add,
        List.append_assoc]
      rw [ih]
      rfl

/-- Attaching children to the tree writes them into the arena. -/
theorem arena_attach (tree : Tree) (more : List Child) :
    (tree.attach more).arena = tree.arena.extend more := by
  have nodes := tree.nodesFrom_attach more 0 .root none
  rw [Nat.zero_add, ← top_arena, ← size_arena] at nodes
  have opened : (tree.attach more).openPath = tree.openPath := by
    rw [openPath, openPath, openBelow_attach]
  rw [Arena.extend, arena, opened]
  exact congrArg (Arena.mk · tree.openPath) nodes

private theorem arena_addLeaf (tree : Tree) (token : Token) :
    (tree.addLeaf token).arena = tree.arena.withEntry (.leaf token) := by
  rw [addLeaf, arena_attach, Arena.extend, childRows_cons]
  simp only [Child.rows, childRows, List.append_nil, List.map_nil]
  rfl

/-! ### Opening and closing -/

private theorem children_start (kind : NodeKind) : ∀ tree : Tree,
    (tree.start kind).children = (tree.attach [.node kind []]).children
  | .here _ => rfl
  | .inside before outer rest => by rw [start, children, children_start kind rest]; rfl

private theorem openBelow_start (kind : NodeKind) : ∀ (tree : Tree) (number : Nat),
    (tree.start kind).openBelow number = tree.openBelow number ++ [number + tree.size]
  | .here children, number => by
      simp only [start, openBelow, size, Tree.children]
      rw [Nat.add_right_comm, Nat.add_assoc]
      rfl
  | .inside before outer rest, number => by
      rw [start, openBelow, openBelow_start kind rest, openBelow, size_inside, List.cons_append]
      simp only [Nat.add_assoc]

private theorem arena_start (tree : Tree) (kind : NodeKind) :
    (tree.start kind).arena = tree.arena.opening kind := by
  have nodes := tree.nodesFrom_attach [.node kind []] 0 .root none
  rw [Nat.zero_add, ← top_arena, ← size_arena] at nodes
  have opened : (tree.start kind).openPath = tree.openPath ++ [tree.arena.size] := by
    rw [openPath, openBelow_start, Nat.zero_add, size_arena]
    rfl
  rw [Arena.opening, arena, opened]
  refine congrArg (Arena.mk · _) ?_
  rw [show (tree.start kind).table.map Row.node = nodesFrom 0 .root none (tree.start kind).children
    from rfl, children_start, nodes]
  rfl

/-- Closing acts on the innermost open node. -/
theorem close_inside (before : List Child) (kind inner : NodeKind) (written : List Child)
    (rest : Tree) :
    (Tree.inside before kind (.inside written inner rest)).close =
      (Tree.inside written inner rest).close.map (.inside before kind) := by
  rw [close]
  intro _ here
  cases here

/-- Closing succeeds where a node is open, leaves the children as they are, and goes one
step up. -/
theorem exists_close : ∀ (tree : Tree), 0 < tree.depth →
    ∃ closed, tree.close = .ok closed ∧ closed.children = tree.children ∧
      ∀ number, number :: closed.openBelow number = (number :: tree.openBelow number).dropLast
  | .inside before kind (.here written), _ => ⟨_, rfl, rfl, fun _ => rfl⟩
  | .inside before kind (.inside written inner rest), _ => by
      obtain ⟨closed, ran, same, path⟩ :=
        (Tree.inside written inner rest).exists_close (Nat.succ_pos _)
      refine ⟨.inside before kind closed, ?_, ?_, fun number => ?_⟩
      · rw [close_inside, ran]
        rfl
      · rw [children, same]
        rfl
      · rw [openBelow, path]
        rfl

/-- Closing fails only where no node is open. -/
theorem depth_eq_zero_of_close (tree : Tree) {error : BuildError}
    (failed : tree.close = .error error) : tree.depth = 0 := by
  rcases Nat.eq_zero_or_pos tree.depth with outermost | inner
  · exact outermost
  · obtain ⟨closed, ran, -⟩ := tree.exists_close inner
    exact nomatch failed.symm.trans ran

private theorem length_openBelow : ∀ (tree : Tree) (number : Nat),
    (tree.openBelow number).length = tree.depth
  | .here _, _ => rfl
  | .inside before kind rest, number => by
      rw [openBelow, List.length_cons, rest.length_openBelow, depth]

private theorem length_openPath (tree : Tree) : tree.openPath.length = tree.depth + 1 := by
  rw [openPath, List.length_cons, length_openBelow]

/-- The path of an arena holds the root and the open nodes. -/
theorem length_opened (tree : Tree) : tree.arena.opened.length = tree.depth + 1 :=
  tree.length_openPath

/-- Where closing succeeds a node was open. -/
theorem depth_pos_of_close {tree closed : Tree} (ran : tree.close = .ok closed) :
    0 < tree.depth := by
  cases tree with
  | here children => exact nomatch ran
  | inside before kind rest => exact Nat.succ_pos _

/-- Closing a node of the tree drops the last number of the path, and no node changes. -/
theorem arena_close {tree closed : Tree} (ran : tree.close = .ok closed) :
    closed.arena = tree.arena.closing := by
  obtain ⟨_, again, same, path⟩ := tree.exists_close (depth_pos_of_close ran)
  cases ran.symm.trans again
  have nodes : closed.arena.nodes = tree.arena.nodes := by
    rw [nodes_arena, nodes_arena, same]
  exact congr (congrArg Arena.mk nodes) (path 0)

/-! ### Operations -/

/-- Opening a node in the arena of a tree gives the arena of the tree with that node
open. -/
theorem run_start (tree : Tree) (kind : NodeKind) :
    (Arena.start kind).run tree.arena = .ok () (tree.start kind).arena := by
  rw [Arena.run_start tree.top_lt_size, arena_start]

/-- Adding a leaf to the arena of a tree gives the arena of the tree with that leaf. -/
theorem run_addLeaf (tree : Tree) (token : Token) :
    (Arena.addLeaf token).run tree.arena = .ok () (tree.addLeaf token).arena := by
  rw [Arena.run_addLeaf tree.top_lt_size, arena_addLeaf]

/-- Closing in the arena of a tree gives the arena of the closed tree. -/
theorem run_close {tree closed : Tree} (ran : tree.close = .ok closed) :
    Arena.close.run tree.arena = .ok () closed.arena := by
  have inner := depth_pos_of_close ran
  rw [Arena.run_close, length_opened, if_neg (by omega), arena_close ran]

/-- What goes well on a tree goes well on its arena. -/
theorem run_play : ∀ {steps : List Step} {tree left : Tree}, tree.play steps = .ok left →
    (Arena.play steps).run tree.arena = .ok () left.arena
  | [], tree, left, ran => by
      cases ran
      rfl
  | .start kind :: rest, tree, left, ran => by
      rw [Arena.play_cons, EStateM.run_bind, Arena.perform, run_start]
      exact run_play ran
  | .leaf token :: rest, tree, left, ran => by
      rw [Arena.play_cons, EStateM.run_bind, Arena.perform, run_addLeaf]
      exact run_play ran
  | .close :: rest, tree, left, ran => by
      cases closing : tree.close with
      | error error => rw [play, closing] at ran; cases ran
      | ok closed =>
          rw [play, closing] at ran
          rw [Arena.play_cons, EStateM.run_bind, Arena.perform, run_close closing]
          exact run_play ran

end Tree

/-- Steps that write children extend the arena by the rows of these children. -/
theorem Writes.run {steps : List Step} {children : List Child} (writes : Writes steps children)
    (tree : Tree) :
    (Arena.play steps).run tree.arena = .ok () (tree.arena.extend children) := by
  rw [Tree.run_play (writes.play tree), Tree.arena_attach]

namespace Arena

/-- A new arena stores the empty tree. -/
theorem new_eq : new = Tree.empty.arena :=
  rfl

/-- The three changes of an arena are changes of the tree that it holds. -/
theorem holdsTree : Invariant fun arena => ∃ tree : Tree, tree.arena = arena where
  top_lt := by
    rintro _ ⟨tree, rfl⟩
    exact tree.top_lt_size
  opening := by
    rintro _ ⟨tree, rfl⟩ kind
    exact ⟨tree.start kind, tree.arena_start kind⟩
  withLeaf := by
    rintro _ ⟨tree, rfl⟩ token
    exact ⟨tree.addLeaf token, tree.arena_addLeaf token⟩
  closing := by
    rintro _ ⟨tree, rfl⟩ inner
    rw [tree.length_opened] at inner
    obtain ⟨closed, ran, -⟩ := tree.exists_close (Nat.lt_of_succ_lt_succ inner)
    exact ⟨closed, Tree.arena_close ran⟩

/-- Whatever is done to a new arena, it holds a tree. -/
theorem exists_tree (edits : List Edit) : ∃ tree : Tree, tree.arena = new.after edits :=
  holdsTree.after ⟨.empty, rfl⟩ edits

end Arena

end ClauseTree
