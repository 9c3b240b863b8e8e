import ClauseTree.Proofs.Edits
import Mathlib.Data.List.Chain

/-!
# The shape of an arena

The children, the parents and the open path agree at any time.  The arena is one tree under
its root, a parent stands before its children, and the open nodes are a path down from the
root.

None of the three is computed from another, so what has to be shown is that each change
updates all of them alike.
-/

namespace ClauseTree

def Entry.number? : Entry → Option Nat
  | .leaf _ => none
  | .node number => some number

/-- The numbers that a node lists, in order. -/
def Node.listed (node : Node) : List Nat :=
  node.entries.filterMap Entry.number?

namespace Arena

def kind? (arena : Arena) (number : Nat) : Option NodeKind :=
  arena.nodes[number]?.map Node.kind

def parent? (arena : Arena) (number : Nat) : Option Nat :=
  arena.nodes[number]?.bind Node.parent

/-- The numbers that the node with a number lists. -/
def listedUnder (arena : Arena) (number : Nat) : List Nat :=
  (arena.nodes[number]?.map Node.listed).getD []

/-- The numbers that are listed anywhere, as often as they are. -/
def listed (arena : Arena) : List Nat :=
  arena.nodes.flatMap Node.listed

/-- The children, the parents and the open path of an arena agree. -/
structure IsTree (arena : Arena) : Prop where
  /-- The first node is the root. -/
  root : arena.kind? 0 = some .root
  /-- The root hangs under no node. -/
  parentless : arena.parent? 0 = none
  /-- Any other node hangs under one before it, which lists it.  It is listed nowhere else. -/
  child : ∀ number, 0 < number → number < arena.size →
    ∃ parent < number, arena.parent? number = some parent ∧
      number ∈ arena.listedUnder parent ∧ arena.listed.count number = 1
  /-- What is listed is a node, and not the root. -/
  named : ∀ number ∈ arena.listed, 0 < number ∧ number < arena.size
  /-- The open path starts at the root. -/
  path : arena.opened.head? = some 0
  /-- Each open node hangs under the one before it in the path. -/
  linked : arena.opened.IsChain fun outer inner => arena.parent? inner = some outer

/-! ### Appending a child -/

private theorem listed_append (entry : Entry) (node : Node) :
    (node.append entry).listed = node.listed ++ entry.number?.toList := by
  rw [Node.append, Node.listed, List.filterMap_append]
  cases entry <;> rfl

/-- Appending an entry to one node adds the number of that entry to the lists of children,
once. -/
theorem count_listed_modify (entry : Entry) (number : Nat) :
    ∀ {nodes : List Node} {i : Nat}, i < nodes.length →
      ((nodes.modify i (Node.append entry)).flatMap Node.listed).count number =
        (nodes.flatMap Node.listed).count number + entry.number?.toList.count number
  | [], _, inside => absurd inside (Nat.not_lt_zero _)
  | node :: rest, 0, _ => by
      simp only [List.modify_zero_cons, List.flatMap_cons, listed_append, List.count_append]
      omega
  | node :: rest, i + 1, inside => by
      have ih := count_listed_modify entry number (Nat.lt_of_succ_lt_succ inside)
      simp only [List.modify_succ_cons, List.flatMap_cons, List.count_append, ih]
      omega

section

variable {arena : Arena}

/-- Only nodes of the arena have parents. -/
theorem lt_size_of_parent? {number parent : Nat} (hangs : arena.parent? number = some parent) :
    number < arena.size := by
  obtain ⟨node, found, -⟩ := Option.bind_eq_some_iff.mp hangs
  exact (List.getElem?_eq_some_iff.mp found).1

/-- An entry adds no node. -/
@[simp] theorem size_withEntry (entry : Entry) : (arena.withEntry entry).size = arena.size :=
  List.length_modify ..

/-- An entry changes no parent. -/
@[simp] theorem parent?_withEntry (entry : Entry) (number : Nat) :
    (arena.withEntry entry).parent? number = arena.parent? number := by
  rw [parent?, parent?, withEntry, List.getElem?_modify]
  cases arena.nodes[number]? with
  | none => rfl
  | some node => by_cases here : arena.top = number <;> simp [here, Node.append]

/-- An entry changes no kind. -/
@[simp] theorem kind?_withEntry (entry : Entry) (number : Nat) :
    (arena.withEntry entry).kind? number = arena.kind? number := by
  rw [kind?, kind?, withEntry, List.getElem?_modify]
  cases arena.nodes[number]? with
  | none => rfl
  | some node => by_cases here : arena.top = number <;> simp [here, Node.append]

/-- Entries are only added, never taken away. -/
theorem listedUnder_withEntry (entry : Entry) (number : Nat) :
    arena.listedUnder number ⊆ (arena.withEntry entry).listedUnder number := by
  rw [listedUnder, listedUnder, withEntry, List.getElem?_modify]
  cases arena.nodes[number]? with
  | none => exact List.Subset.refl _
  | some node => by_cases here : arena.top = number <;> simp [here, listed_append]

private theorem mem_listedUnder_top (present : arena.top < arena.size) (number : Nat) :
    number ∈ (arena.withEntry (.node number)).listedUnder arena.top := by
  rw [listedUnder, withEntry, List.getElem?_modify,
    List.getElem?_eq_getElem (show arena.top < arena.nodes.length from present)]
  simp [listed_append, Entry.number?]

/-! ### Opening a node -/

/-- Opening adds one node. -/
@[simp] theorem size_opening (kind : NodeKind) : (arena.opening kind).size = arena.size + 1 := by
  simp [opening, size]

/-- A new node stands behind the others and is listed in the innermost open one. -/
theorem nodes_opening (kind : NodeKind) :
    (arena.opening kind).nodes =
      (arena.withEntry (.node arena.size)).nodes ++
        [{ kind := kind, entries := [], parent := some arena.top }] :=
  rfl

private theorem getElem?_opening {kind : NodeKind} {number : Nat} (old : number < arena.size) :
    (arena.opening kind).nodes[number]? =
      (arena.withEntry (.node arena.size)).nodes[number]? := by
  rw [nodes_opening]
  exact List.getElem?_append_left (by rwa [← size, size_withEntry])

private theorem parent?_opening_of_lt {kind : NodeKind} {number : Nat} (old : number < arena.size) :
    (arena.opening kind).parent? number = arena.parent? number := by
  rw [parent?, getElem?_opening old]
  exact parent?_withEntry _ _

private theorem kind?_opening_of_lt {kind : NodeKind} {number : Nat} (old : number < arena.size) :
    (arena.opening kind).kind? number = arena.kind? number := by
  rw [kind?, getElem?_opening old]
  exact kind?_withEntry _ _

/-- A new node hangs under the innermost open one. -/
theorem parent?_opening_size (kind : NodeKind) :
    (arena.opening kind).parent? arena.size = some arena.top := by
  have last : (arena.withEntry (.node arena.size)).nodes.length = arena.size := size_withEntry _
  rw [parent?, nodes_opening, List.getElem?_append_right (by rw [last]), last, Nat.sub_self]
  rfl

private theorem listedUnder_opening_of_lt {kind : NodeKind} {number : Nat}
    (old : number < arena.size) :
    (arena.opening kind).listedUnder number =
      (arena.withEntry (.node arena.size)).listedUnder number := by
  rw [listedUnder, listedUnder, getElem?_opening old]

/-- Opening lists the new node once, and every other node as often as before. -/
theorem count_listed_opening (present : arena.top < arena.size) (kind : NodeKind)
    (number : Nat) :
    (arena.opening kind).listed.count number =
      arena.listed.count number + if number = arena.size then 1 else 0 := by
  have grown := count_listed_modify (.node arena.size) number present
  rw [listed, nodes_opening, List.flatMap_append, List.count_append, withEntry, grown]
  by_cases here : number = arena.size <;>
    simp [here, listed, Node.listed, Entry.number?, eq_comm]

/-! ### The open path -/

private theorem Linked.lt_size {path : List Nat} {outermost : Nat} (inside : outermost < arena.size)
    (linked : (outermost :: path).IsChain fun outer inner => arena.parent? inner = some outer) :
    ∀ number ∈ outermost :: path, number < arena.size := by
  induction path generalizing outermost with
  | nil => simpa using inside
  | cons next rest ih =>
      obtain ⟨hangs, linked⟩ := List.isChain_cons_cons.mp linked
      have below := ih (lt_size_of_parent? hangs) linked
      intro number listed
      rcases List.mem_cons.mp listed with rfl | deeper
      · exact inside
      · exact below number deeper

namespace IsTree

private theorem size_pos (tree : arena.IsTree) : 0 < arena.size := by
  obtain ⟨node, found, -⟩ := Option.map_eq_some_iff.mp tree.root
  exact (List.getElem?_eq_some_iff.mp found).1

/-- The path of open nodes begins at the root. -/
theorem opened_eq (tree : arena.IsTree) : ∃ inner, arena.opened = 0 :: inner :=
  (List.head?_eq_some_iff).mp tree.path

/-- The open nodes are nodes of the arena. -/
theorem opened_lt (tree : arena.IsTree) : ∀ number ∈ arena.opened, number < arena.size := by
  obtain ⟨inner, path⟩ := tree.opened_eq
  have linked := tree.linked
  rw [path] at linked ⊢
  exact Linked.lt_size tree.size_pos linked

/-- So the innermost open node is the last of the path, whatever is given for an empty
one. -/
theorem getLast?_opened (tree : arena.IsTree) : arena.opened.getLast? = some arena.top := by
  obtain ⟨inner, path⟩ := tree.opened_eq
  rw [top, path, List.getLast?_cons]
  rfl

/-- The innermost open node is a node of the arena. -/
theorem top_lt (tree : arena.IsTree) : arena.top < arena.size :=
  tree.opened_lt _ (List.mem_of_getLast? tree.getLast?_opened)

/-! ### The three changes -/

private theorem size_not_listed (tree : arena.IsTree) : arena.listed.count arena.size = 0 :=
  List.count_eq_zero.mpr fun listed => absurd (tree.named _ listed).2 (Nat.lt_irrefl _)

/-- A leaf keeps the shape of a tree. -/
theorem withLeaf (tree : arena.IsTree) (token : Token) :
    (arena.withEntry (.leaf token)).IsTree where
  root := by rw [kind?_withEntry, tree.root]
  parentless := by rw [parent?_withEntry, tree.parentless]
  child := by
    intro number positive inside
    rw [size_withEntry] at inside
    obtain ⟨parent, before, hangs, listed, once⟩ := tree.child number positive inside
    refine ⟨parent, before, ?_, listedUnder_withEntry _ _ listed, ?_⟩
    · rw [parent?_withEntry, hangs]
    · rw [Arena.listed, withEntry, count_listed_modify _ _ tree.top_lt]
      exact once
  named := by
    intro number listed
    rw [← List.count_pos_iff, Arena.listed, withEntry, count_listed_modify _ _ tree.top_lt]
      at listed
    rw [size_withEntry]
    exact tree.named number (List.count_pos_iff.mp listed)
  path := tree.path
  linked := by
    refine tree.linked.imp fun outer inner hangs => ?_
    rw [parent?_withEntry, hangs]

/-- A new node keeps the shape of a tree: it has one parent, and it is listed there once. -/
theorem opening (tree : arena.IsTree) (kind : NodeKind) : (arena.opening kind).IsTree where
  root := by rw [kind?_opening_of_lt tree.size_pos, tree.root]
  parentless := by rw [parent?_opening_of_lt tree.size_pos, tree.parentless]
  child := by
    intro number positive inside
    rw [size_opening] at inside
    rw [count_listed_opening tree.top_lt]
    -- The new node is listed under the innermost open one, and the others stay where they were.
    by_cases new : number = arena.size
    · subst new
      refine ⟨arena.top, tree.top_lt, parent?_opening_size kind, ?_, ?_⟩
      · rw [listedUnder_opening_of_lt tree.top_lt]
        exact mem_listedUnder_top tree.top_lt _
      · rw [tree.size_not_listed, if_pos rfl]
    · have old : number < arena.size := by omega
      obtain ⟨parent, before, hangs, listed, once⟩ := tree.child number positive old
      refine ⟨parent, before, ?_, ?_, ?_⟩
      · rw [parent?_opening_of_lt old, hangs]
      · rw [listedUnder_opening_of_lt (before.trans old)]
        exact listedUnder_withEntry _ _ listed
      · rw [once, if_neg new]
  named := by
    intro number listed
    rw [← List.count_pos_iff, count_listed_opening tree.top_lt] at listed
    rw [size_opening]
    by_cases new : number = arena.size
    · have positive := tree.size_pos
      omega
    · rw [if_neg new] at listed
      obtain ⟨positive, old⟩ := tree.named number (List.count_pos_iff.mp listed)
      exact ⟨positive, old.trans (Nat.lt_succ_self _)⟩
  path := by
    obtain ⟨inner, path⟩ := tree.opened_eq
    rw [Arena.opening, path]
    rfl
  linked := by
    refine List.isChain_append.mpr ⟨?_, List.isChain_singleton _, ?_⟩
    · refine tree.linked.imp fun outer inner hangs => ?_
      rw [parent?_opening_of_lt (lt_size_of_parent? hangs), hangs]
    · intro outer last inner first
      rw [tree.getLast?_opened, Option.mem_some_iff] at last
      rw [List.head?_cons, Option.mem_some_iff] at first
      rw [← last, ← first, parent?_opening_size]

/-- Closing keeps the shape of a tree, because it touches the path of open nodes only. -/
theorem closing (tree : arena.IsTree) (inner : 1 < arena.opened.length) :
    arena.closing.IsTree where
  root := tree.root
  parentless := tree.parentless
  child := tree.child
  named := tree.named
  path := by
    obtain ⟨rest, path⟩ := tree.opened_eq
    rw [path, List.length_cons] at inner
    rw [Arena.closing, path, List.dropLast_cons_of_ne_nil (List.length_pos_iff.mp (by omega))]
    rfl
  linked := tree.linked.prefix (List.dropLast_prefix _)

end IsTree

private theorem isTree_new : IsTree new where
  root := rfl
  parentless := rfl
  child := by
    intro number positive inside
    exact absurd positive (Nat.not_lt.mpr (Nat.le_of_lt_succ inside))
  named := by
    intro number listed
    exact absurd listed (List.not_mem_nil)
  path := rfl
  linked := List.isChain_singleton _

/-- To have the shape of a tree is an invariant of the three changes of an arena. -/
theorem isTree_invariant : Invariant IsTree where
  top_lt := IsTree.top_lt
  opening := IsTree.opening
  withLeaf := IsTree.withLeaf
  closing := IsTree.closing

/-- Whatever edits have made an arena, it has the shape of a tree. -/
theorem isTree_after (edits : List Edit) : (new.after edits).IsTree :=
  isTree_invariant.after isTree_new edits

end

end Arena

end ClauseTree
