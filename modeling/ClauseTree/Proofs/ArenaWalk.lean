import ClauseTree.Arena.Walk
import ClauseTree.Proofs.ArenaShape
import ClauseTree.Proofs.ArenaTree

/-!
# What a walk over an arena finds

A walk follows numbers, and nothing in an arena says that it comes to an end or that every
number leads to a node.  Over the nodes of a tree it does: the numbers of a child and of all
below it are a stretch of the arena, and the walk goes through that stretch from its start to
its end.

On the way it writes what the printer of trees writes, and binds the same parameters.
-/

namespace ClauseTree

/-! ### The text of a node -/

namespace Body

/-- Writing children one by one is joining those that are not empty. -/
theorem foldl_add (layout : Layout) : ∀ (fragments : List Fragment) (body : Body),
    let written := fragments.filter fun fragment => !fragment.text.isEmpty
    fragments.foldl (add layout) body =
      { text :=
          body.text ++
            if 0 < body.count then layout.joinRest written else layout.joinWritten written
        count := body.count + written.length }
  | [], body => by simp [Layout.joinRest, Layout.joinWritten]
  | fragment :: rest, body => by
      have ih := foldl_add layout rest (body.add layout fragment)
      by_cases empty : fragment.text.isEmpty
      · rw [List.foldl_cons, ih]
        simp [add, empty]
      · rw [List.foldl_cons, ih]
        by_cases first : 0 < body.count
        · simp [add, empty, first, Layout.joinRest, String.append_assoc, Nat.add_assoc,
            Nat.add_comm 1]
        · simp [add, empty, first, Layout.joinWritten, String.append_assoc, Nat.add_assoc,
            Nat.add_comm 1]

private theorem finish_foldl_add (layout : Layout) (fragments : List Fragment) :
    (fragments.foldl (add layout) empty).finish layout = layout.compose fragments := by
  rw [foldl_add, finish, Layout.compose]
  simp [empty]

end Body

/-! ### Stretches of an arena -/

/-- What a walk leaves behind that has gone through so many nodes from a number on. -/
def Trace.past (trace : Trace) (parameters : Parameters) (number count : Nat) : Trace :=
  { parameters := parameters, visited := trace.visited ++ List.range' number count }

/-- Two stretches of the walk that follow each other are one. -/
theorem Trace.past_past (trace : Trace) (between parameters : Parameters)
    (number count more : Nat) :
    (trace.past between number count).past parameters (number + count) more =
      trace.past parameters number (count + more) := by
  rw [past, past, past, List.append_assoc, List.range'_append_1]

namespace Arena

section

variable {arena : Arena} {mode : Mode}

/-- An arena has these nodes from a number on, whatever follows. -/
def Stores (arena : Arena) (number : Nat) (nodes : List Node) : Prop :=
  nodes <+: arena.nodes.drop number

namespace Stores

private theorem left {number : Nat} {first second : List Node}
    (stores : arena.Stores number (first ++ second)) : arena.Stores number first :=
  (List.prefix_append first second).trans stores

private theorem right {number : Nat} {first second : List Node}
    (stores : arena.Stores number (first ++ second)) :
    arena.Stores (number + first.length) second := by
  obtain ⟨rest, stored⟩ := stores
  refine ⟨rest, ?_⟩
  rw [← List.drop_drop, ← stored, List.append_assoc, List.drop_left]

private theorem head {number : Nat} {node : Node} {nodes : List Node}
    (stores : arena.Stores number (node :: nodes)) : arena.nodes[number]? = some node := by
  obtain ⟨rest, stored⟩ := stores
  rw [← Nat.add_zero number, ← List.getElem?_drop, ← stored]
  rfl

private theorem tail {number : Nat} {node : Node} {nodes : List Node}
    (stores : arena.Stores number (node :: nodes)) : arena.Stores (number + 1) nodes :=
  Stores.right (show arena.Stores number ([node] ++ nodes) from stores)

end Stores

private theorem stores_arena (tree : Tree) :
    tree.arena.Stores 0 (nodesFrom 0 .root none tree.children) :=
  List.prefix_refl _

/-! ### Writing -/

/-- Writing the children of a node is writing the node. -/
theorem writeNode_eq {number : Nat} {node : Node} {trace left : Trace}
    {fragments : List Fragment} (found : arena.nodes[number]? = some node)
    (written : node.entries.foldlM (arena.writeEntry mode node.kind.layout) Body.empty
      (trace.past trace.parameters number 1) =
        some (fragments.foldl (Body.add node.kind.layout) Body.empty, left)) :
    arena.writeNode mode number trace = some (node.kind.layout.compose fragments, left) := by
  rw [writeNode, ← Body.finish_foldl_add]
  simp only [bind, StateT.bind, node?, found, Option.map_some, Option.bind_some]
  exact congrArg (Option.bind · fun result =>
    some (result.1.finish node.kind.layout, result.2)) written

/-- Writing a child that is a node is writing the node. -/
theorem writeEntry_eq {number : Nat} {node : Node} {trace left : Trace} {text : String}
    (found : arena.nodes[number]? = some node)
    (written : arena.writeNode mode number trace = some (text, left)) (layout : Layout)
    (body : Body) :
    arena.writeEntry mode layout body (.node number) trace =
      some (body.add layout ⟨node.kind.layout.glue, text⟩, left) := by
  rw [writeEntry]
  simp only [bind, StateT.bind, written, Option.bind_some, node?, found, Option.map_some]
  rfl

private theorem foldlM_concat {step : Body → Entry → Walk Body} {entries : List Entry}
    {entry : Entry} {start body : Body} {trace between : Trace} {result : Body × Trace}
    (first : entries.foldlM step start trace = some (body, between))
    (last : step body entry between = some result) :
    (entries ++ [entry]).foldlM step start trace = some result := by
  rw [List.foldlM_append]
  simp only [bind, StateT.bind, first, Option.bind_some, List.foldlM_cons, List.foldlM_nil, last]
  rfl

/-- The text of an arena is that of its root, and nothing is left but the parameters. -/
theorem walk_eq {parameters : Parameters} {visited : List Nat} {text : String} {left : Trace}
    (written : arena.writeNode mode 0 { parameters := parameters, visited := [] } =
      some (text, left)) :
    arena.walk mode { parameters := parameters, visited := visited } =
      some (Text.trim text, { parameters := left.parameters, visited := visited }) := by
  have walked : arena.walk mode { parameters := parameters, visited := visited } =
      (arena.writeNode mode 0 { parameters := parameters, visited := [] }).bind fun inside =>
        some (Text.trim inside.1, { inside.2 with visited := visited }) := by
    rw [walk]
    rfl
  rw [walked, written]
  rfl

end

end Arena

section

variable {mode : Mode}

mutual

private theorem Token.walk_eq : ∀ token : Token, token.walk mode = Walk.writing (token.write mode)
  | ⟨kind, castType, outputName⟩ => by
      rw [Token.walk, kind.walk_eq]
      rfl

private theorem TokenKind.walk_eq (whole : Token) : ∀ kind : TokenKind,
    kind.walk mode whole = Walk.writing (kind.write mode whole)
  | .name _ => by rw [TokenKind.walk]; rfl
  | .quotedName _ => by rw [TokenKind.walk]; rfl
  | .constant value prepared => by
      rw [TokenKind.walk.eq_def, TokenKind.write.eq_def]
      cases mode <;> cases prepared <;> rfl
  | .dollarString _ _ => by rw [TokenKind.walk]; rfl
  | .array items => by rw [TokenKind.walk, mapM_walk items]; rfl
  | .list items => by rw [TokenKind.walk, mapM_walk items]; rfl
  | .call name argument => by rw [TokenKind.walk, argument.walk_eq]; rfl
  | .emptyCall _ => by rw [TokenKind.walk]; rfl
  | .operator _ => by rw [TokenKind.walk]; rfl
  | .applied symbol operand => by rw [TokenKind.walk, operand.walk_eq]; rfl
  | .subQuery tree => by
      funext trace
      rw [TokenKind.walk]
      simp only [bind, StateT.bind]
      rw [Arena.walk_eq (tree.writeNode_nodesFrom (Arena.stores_arena tree) _)]
      rfl
  | .statement tree => by
      funext trace
      rw [TokenKind.walk, Arena.walk_eq (tree.writeNode_nodesFrom (Arena.stores_arena tree) _)]
      rfl
  | .values rows => by rw [TokenKind.walk, mapM_walkRow rows]; rfl

private theorem mapM_walk : ∀ tokens : List Token,
    tokens.mapM (Token.walk mode) = Walk.writing (writeTokens mode tokens)
  | [] => rfl
  | token :: rest => by
      rw [List.mapM_cons, token.walk_eq, mapM_walk rest]
      rfl

private theorem mapM_walkRow : ∀ rows : List (List Token),
    (rows.mapM fun row => do
      let items ← row.mapM (Token.walk mode)
      pure ("(" ++ commaSeparated items ++ ")")) = Walk.writing (writeRows mode rows)
  | [] => rfl
  | row :: rest => by
      rw [List.mapM_cons, mapM_walk row, mapM_walkRow rest]
      rfl

/-- Writing a child goes through its stretch of the arena. -/
theorem Child.writeEntry_rows {arena : Arena} (layout : Layout) {parent next : Nat} :
    ∀ (child : Child) (body : Body) (trace : Trace),
      arena.Stores next ((child.rows parent next).2.map Row.node) →
      arena.writeEntry mode layout body (child.rows parent next).1 trace =
        some (body.add layout (child.write mode trace.parameters).1,
          trace.past (child.write mode trace.parameters).2 next child.nodeCount)
  | .leaf token, body, trace, _ => by
      rw [Child.rows, Arena.writeEntry, token.walk_eq, Child.nodeCount, Trace.past,
        List.range'_zero, List.append_nil]
      rfl
  | .node kind children, body, trace, stores => by
      have inner := foldlM_writeEntry_childRows kind.layout children .empty
        (trace.past trace.parameters next 1) stores.tail
      rw [Trace.past_past, Nat.add_comm 1] at inner
      exact Arena.writeEntry_eq stores.head (Arena.writeNode_eq stores.head inner) layout body

/-- Writing several children goes through their stretches, one behind the other. -/
theorem foldlM_writeEntry_childRows {arena : Arena} (layout : Layout) {parent next : Nat} :
    ∀ (children : List Child) (body : Body) (trace : Trace),
      arena.Stores next ((childRows parent next children).2.map Row.node) →
      (childRows parent next children).1.foldlM (arena.writeEntry mode layout) body trace =
        some ((writeChildren mode children trace.parameters).1.foldl (Body.add layout) body,
          trace.past (writeChildren mode children trace.parameters).2 next (nodeCounts children))
  | [], body, trace, _ => by
      rw [nodeCounts, Trace.past, List.range'_zero, List.append_nil]
      rfl
  | child :: rest, body, trace, stores => by
      rw [childRows_cons, List.map_append] at stores
      have first := child.writeEntry_rows layout body trace stores.left
      have behind := stores.right
      rw [List.length_map, child.length_rows] at behind
      have others := foldlM_writeEntry_childRows layout rest
        (body.add layout (child.write mode trace.parameters).1)
        (trace.past (child.write mode trace.parameters).2 next child.nodeCount) behind
      rw [childRows_cons, List.foldlM_cons]
      simp only [bind, StateT.bind, first, Option.bind_some, others, Trace.past_past, nodeCounts]
      rfl

/-- Writing a node that may still be open, and so may the last of its children. -/
theorem Tree.writeNode_nodesFrom {arena : Arena} {number : Nat} {kind : NodeKind}
    {parent : Option Nat} : ∀ (tree : Tree),
    arena.Stores number (nodesFrom number kind parent tree.children) → ∀ trace : Trace,
      arena.writeNode mode number trace =
        some (kind.layout.compose (tree.write mode trace.parameters).1,
          trace.past (tree.write mode trace.parameters).2 number tree.size)
  | .here children, stores, trace => by
      have inner := foldlM_writeEntry_childRows kind.layout children .empty
        (trace.past trace.parameters number 1) stores.tail
      rw [Trace.past_past, Nat.add_comm 1] at inner
      exact Arena.writeNode_eq stores.head inner
  -- The finished children are walked first; the open one is numbered behind all of them.
  | .inside before opened rest, stores, trace => by
      rw [Tree.children, nodesFrom_concat] at stores
      have behind := stores.right
      rw [length_nodesBefore, ← Nat.add_assoc] at behind
      have finished := foldlM_writeEntry_childRows kind.layout before .empty
        (trace.past trace.parameters number 1) stores.left.tail
      rw [Trace.past_past] at finished
      have deeper := rest.writeNode_nodesFrom behind
        (trace.past (writeChildren mode before trace.parameters).2 number (1 + nodeCounts before))
      rw [Nat.add_assoc, Trace.past_past, ← Nat.add_assoc,
        ← Tree.size_inside before opened] at deeper
      have last := Arena.writeEntry_eq behind.head deeper kind.layout
        ((writeChildren mode before trace.parameters).1.foldl (Body.add kind.layout) .empty)
      refine Arena.writeNode_eq stores.left.head ?_
      rw [Tree.write, Writing.bind_apply, Writing.bind_apply, Writing.pure_apply,
        List.foldl_append]
      exact Arena.foldlM_concat finished last

end

end

namespace Arena

/-- The walk from the root writes the tree in an arena.  It comes to every node once, in the
order of the numbers, however many of them are still open. -/
theorem writeNode_arena (mode : Mode) (tree : Tree) (parameters : Parameters) :
    tree.arena.writeNode mode 0 { parameters := parameters, visited := [] } =
      some (NodeKind.root.layout.compose (tree.write mode parameters).1,
        { parameters := (tree.write mode parameters).2,
          visited := List.range tree.arena.size }) := by
  rw [tree.writeNode_nodesFrom (stores_arena tree), tree.size_arena, List.range_eq_range']
  rfl

/-- Walking an arena over its indices gives the text and the parameters of the tree it
stores, in every mode; in particular the walk ends. -/
theorem render_arena (mode : Mode) (tree : Tree) :
    tree.arena.render mode = some (tree.render mode) := by
  rw [render, walk_eq (writeNode_arena mode tree .empty)]
  rfl

/-! ### Reading -/

section

variable {arena : Arena}

mutual

private theorem readEntry_rows {parent next : Nat} : ∀ child : Child,
    arena.Stores next ((child.rows parent next).2.map Row.node) →
      arena.readEntry (child.rows parent next).1 = some child
  | .leaf token, _ => by rw [Child.rows, readEntry]
  | .node kind children, stores => by
      have inner := mapM_readEntry_childRows children stores.tail
      rw [Child.rows, readEntry, readNode, stores.head]
      simp only [Option.bind_eq_bind, Option.bind_some, Row.node, inner, Option.pure_def]

private theorem mapM_readEntry_childRows {parent next : Nat} : ∀ children : List Child,
    arena.Stores next ((childRows parent next children).2.map Row.node) →
      (childRows parent next children).1.mapM arena.readEntry = some children
  | [], _ => rfl
  | child :: rest, stores => by
      rw [childRows_cons, List.map_append] at stores
      have first := readEntry_rows child stores.left
      have behind := stores.right
      rw [List.length_map, child.length_rows] at behind
      have others := mapM_readEntry_childRows rest behind
      rw [childRows_cons, List.mapM_cons, first]
      simp only [Option.bind_eq_bind, Option.bind_some, others, Option.pure_def]

end

/-- Reading an arena back from its root gives the children of its tree. -/
theorem readNode_arena (tree : Tree) :
    tree.arena.readNode 0 = some (.node .root tree.children) := by
  have stored := stores_arena tree
  have inner := mapM_readEntry_childRows tree.children stored.tail
  rw [readNode, stored.head]
  simp only [Option.bind_eq_bind, Option.bind_some, inner, Option.pure_def]

/-- A path of open nodes is read from the root on. -/
theorem treeBelow?_nodesFrom {number : Nat} {kind : NodeKind} {parent : Option Nat} :
    ∀ (tree : Tree), arena.Stores number (nodesFrom number kind parent tree.children) →
      arena.treeBelow? number (tree.openBelow number) = some tree
  | .here children, stores => by
      have inner := mapM_readEntry_childRows children stores.tail
      rw [Tree.openBelow, treeBelow?, stores.head]
      simp only [Option.bind_eq_bind, Option.bind_some, Tree.children, inner, Option.pure_def]
  | .inside before opened rest, stores => by
      rw [Tree.children, nodesFrom_concat] at stores
      have behind := stores.right
      rw [length_nodesBefore, ← Nat.add_assoc] at behind
      have finished := mapM_readEntry_childRows before stores.left.tail
      have deeper := treeBelow?_nodesFrom rest behind
      rw [Tree.openBelow, treeBelow?, stores.left.head, behind.head, deeper]
      simp only [Option.bind_eq_bind, Option.bind_some, List.dropLast_concat, finished,
        Option.pure_def]

/-- Nothing of a tree is lost in its arena. -/
theorem tree?_arena (tree : Tree) : tree.arena.tree? = some tree :=
  treeBelow?_nodesFrom tree (stores_arena tree)

end

/-! ### Any time -/

/-- At any time, the arena is one tree, no number leads out of it, and the walk from its root
comes to every node once and to an end. -/
theorem after_wellFormed (edits : List Edit) :
    let arena := new.after edits
    arena.IsTree ∧
      arena.opened.getLast? = some arena.top ∧
      arena.depth + 1 = arena.opened.length ∧
      (∀ edit : Edit, ∃ left, edit.perform.run arena = .ok () left ∨
        edit.perform.run arena = .error (.misuse .unbalancedEnd) left) ∧
      ∀ mode, ∃ text parameters,
        arena.writeNode mode 0 { parameters := .empty, visited := [] } =
          some (text, { parameters := parameters, visited := List.range arena.size }) := by
  have isTree := isTree_after edits
  obtain ⟨tree, held⟩ := exists_tree edits
  refine ⟨isTree, isTree.getLast?_opened, ?_, fun edit => ?_, fun mode => ?_⟩
  · obtain ⟨inner, path⟩ := isTree.opened_eq
    rw [depth, path]
    rfl
  · obtain ⟨left, -, ⟨_, ran⟩ | failed⟩ := isTree_invariant.keeps_perform edit _ isTree
    · exact ⟨left, .inl ran⟩
    · exact ⟨left, .inr failed⟩
  · rw [← held]
    exact ⟨_, _, writeNode_arena mode tree .empty⟩

end Arena

end ClauseTree
