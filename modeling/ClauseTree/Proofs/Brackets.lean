import ClauseTree.Proofs.ArenaWalk

/-!
# Calls as brackets

Opening and closing nodes are brackets around what is written in between.  A list of
children has one word of brackets, in which every bracket has its partner, and no other list
has the same word.

Calls need not be such a word.  Those that close a node where none is open do nothing, and
nodes may be left open.  Without the former and with the missing brackets at the end, the calls
are the word of what they leave in the arena.
-/

namespace ClauseTree

open Arena (Call)

/-! ### Words -/

mutual

/-- The calls that write a child. -/
def Child.word : Child → List Call
  | .leaf token => [.leaf token]
  | .node kind children => .start kind :: words children ++ [.close]

/-- The calls that write children, in order. -/
def words : List Child → List Call
  | [] => []
  | child :: rest => child.word ++ words rest

end

/-- Children in a row have their words in a row. -/
@[simp] theorem words_append : ∀ first second : List Child,
    words (first ++ second) = words first ++ words second
  | [], _ => rfl
  | child :: rest, second => by
      rw [List.cons_append, words, words, words_append rest, List.append_assoc]

/-- Leaves are their own words. -/
@[simp] theorem words_map_leaf (tokens : List Token) :
    words (tokens.map .leaf) = tokens.map .leaf := by
  induction tokens with
  | nil => rfl
  | cons token rest ih => rw [List.map_cons, words, ih]; rfl

/-- The calls with so many nodes open in front of them, where the ones that close nothing are
left out and the nodes that stay open are closed at the end. -/
def completed : Nat → List Call → List Call
  | depth, [] => List.replicate depth .close
  | depth, .start kind :: rest => .start kind :: completed (depth + 1) rest
  | depth, .leaf token :: rest => .leaf token :: completed depth rest
  | depth, .leaves tokens :: rest => tokens.map .leaf ++ completed depth rest
  | 0, .close :: rest => completed 0 rest
  | depth + 1, .close :: rest => .close :: completed depth rest

/-! ### Reading words

What stands in front of the first bracket without a partner, and what stands behind it, up to
the next one.
-/

def readWord : List Call → List Child × List (List Child)
  | [] => ([], [])
  | .leaf token :: rest => (.leaf token :: (readWord rest).1, (readWord rest).2)
  | .leaves tokens :: rest => (tokens.map .leaf ++ (readWord rest).1, (readWord rest).2)
  | .start kind :: rest =>
      (.node kind (readWord rest).1 :: (readWord rest).2.headD [], (readWord rest).2.tail)
  | .close :: rest => ([], (readWord rest).1 :: (readWord rest).2)

mutual

private theorem Child.readWord_word : ∀ (child : Child) (rest : List Call),
    readWord (child.word ++ rest) = (child :: (readWord rest).1, (readWord rest).2)
  | .leaf token, rest => rfl
  | .node kind children, rest => by
      rw [Child.word, List.cons_append, List.cons_append, List.append_assoc, readWord,
        readWord_words children, List.singleton_append, readWord, List.append_nil]
      rfl

private theorem readWord_words : ∀ (children : List Child) (rest : List Call),
    readWord (words children ++ rest) = (children ++ (readWord rest).1, (readWord rest).2)
  | [], _ => rfl
  | child :: children, rest => by
      rw [words, List.append_assoc, child.readWord_word, readWord_words children]
      rfl

end

/-- No two lists of children have the same word. -/
theorem words_injective {first second : List Child} (same : words first = words second) :
    first = second := by
  have left := readWord_words first []
  have right := readWord_words second []
  rw [List.append_nil] at left right
  rw [same, right] at left
  simpa using congrArg Prod.fst left.symm

/-! ### The word of a tree that is being written -/

namespace Tree

/-- The calls that have led to a tree, but for those that have done nothing. -/
def word : Tree → List Call
  | .here children => words children
  | .inside before kind rest => words before ++ .start kind :: rest.word

private theorem word_attach (more : List Child) : ∀ tree : Tree,
    (tree.attach more).word = tree.word ++ words more
  | .here children => words_append children more
  | .inside before kind rest => by
      rw [attach, word, word_attach more rest, word, List.append_assoc, List.cons_append]

private theorem word_start (kind : NodeKind) : ∀ tree : Tree,
    (tree.start kind).word = tree.word ++ [.start kind]
  | .here children => rfl
  | .inside before outer rest => by
      rw [start, word, word_start kind rest, word, List.append_assoc, List.cons_append]

/-- Closing a node adds the closing bracket that was missing, and one fewer is missing
then. -/
theorem word_close : ∀ {tree closed : Tree}, tree.close = .ok closed →
    closed.word = tree.word ++ [.close] ∧ tree.depth = closed.depth + 1
  | .here _, _, ran => nomatch ran
  | .inside before kind (.here written), _, ran => by
      cases ran
      refine ⟨?_, rfl⟩
      simp [word, words, Child.word]
  | .inside before kind (.inside written inner rest), closed, ran => by
      obtain ⟨deeper, below, -⟩ := (Tree.inside written inner rest).exists_close (Nat.succ_pos _)
      rw [close_inside, below] at ran
      cases ran
      obtain ⟨path, depths⟩ := word_close below
      refine ⟨?_, ?_⟩
      · rw [word, path, word.eq_2 before, List.append_assoc, List.cons_append]
      · rw [depth, depths, depth]

/-- The nodes that are open are closed at the end. -/
theorem word_append_replicate : ∀ tree : Tree,
    tree.word ++ List.replicate tree.depth .close = words tree.children
  | .here children => List.append_nil _
  | .inside before kind rest => by
      have ih := rest.word_append_replicate
      rw [word, depth, List.replicate_succ', children, words_append, words, words, Child.word, ← ih]
      simp only [List.append_assoc, List.cons_append, List.append_nil]

/-- A call on a tree. -/
def call (tree : Tree) : Call → Tree
  | .start kind => tree.start kind
  | .leaf token => tree.addLeaf token
  | .leaves tokens => tree.addLeaves tokens
  | .close => tree.close.toOption.getD tree

/-- Whatever a call does, the word so far and the calls to come make up the same word. -/
theorem word_call (tree : Tree) (call : Call) (rest : List Call) :
    (tree.call call).word ++ completed (tree.call call).depth rest =
      tree.word ++ completed tree.depth (call :: rest) := by
  cases call with
  | start kind =>
      rw [Tree.call, word_start, depth_start, completed, List.append_assoc]
      rfl
  | leaf token =>
      rw [Tree.call, addLeaf, word_attach, depth_attach, completed, List.append_assoc]
      rfl
  | leaves tokens =>
      rw [Tree.call, addLeaves, word_attach, depth_attach, completed, words_map_leaf,
        List.append_assoc]
  | close =>
      cases closing : tree.close with
      | error error =>
          have outermost : tree.depth = 0 := tree.depth_eq_zero_of_close closing
          rw [Tree.call, closing, outermost, completed]
          exact congrArg (tree.word ++ completed · rest) outermost
      | ok closed =>
          obtain ⟨path, depths⟩ := word_close closing
          rw [Tree.call, closing, depths, completed]
          simp [Except.toOption, path]

/-- The calls, completed, are the word of the children that they leave. -/
theorem words_children_foldl (calls : List Call) : ∀ tree : Tree,
    words (calls.foldl Tree.call tree).children = tree.word ++ completed tree.depth calls := by
  induction calls with
  | nil => exact fun tree => tree.word_append_replicate.symm
  | cons call rest ih =>
      intro tree
      rw [List.foldl_cons, ih, word_call]

end Tree

/-! ### Calls on an arena -/

namespace Tree

/-- Adding leaves to the arena of a tree gives the arena of the tree with them. -/
theorem run_addLeaves : ∀ (tokens : List Token) (tree : Tree),
    (Arena.addLeaves tokens).run tree.arena = .ok () (tree.addLeaves tokens).arena
  | [], tree => by rw [addLeaves, List.map_nil, attach_nil]; rfl
  | token :: rest, tree => by
      have ih := run_addLeaves rest (tree.addLeaf token)
      rw [addLeaves, addLeaf, attach_attach] at ih
      rw [Arena.addLeaves_cons, EStateM.run_bind, run_addLeaf]
      exact ih

/-- A call on the arena of a tree leaves the arena of the tree after the call. -/
theorem run_call (tree : Tree) (call : Call) :
    call.perform.run tree.arena = .ok () (tree.call call).arena := by
  cases call with
  | start kind => exact tree.run_start kind
  | leaf token => exact tree.run_addLeaf token
  | leaves tokens => exact tree.run_addLeaves tokens
  | close =>
      rw [Call.perform, EStateM.run_bind, Arena.run_tryClose, length_opened]
      cases closing : tree.close with
      | error error =>
          rw [if_pos (by rw [tree.depth_eq_zero_of_close closing]), Tree.call, closing]
          rfl
      | ok closed =>
          have inner := depth_pos_of_close closing
          rw [if_neg (by omega), Tree.call, closing, ← arena_close closing]
          rfl

end Tree

namespace Arena

/-- Calls on the arena of a tree leave the arena of the tree after the calls. -/
theorem after_map_call (calls : List Call) : ∀ tree : Tree,
    tree.arena.after (calls.map .call) = (calls.foldl Tree.call tree).arena := by
  induction calls with
  | nil => exact fun _ => rfl
  | cons call rest ih =>
      intro tree
      have ran := tree.run_call call
      rw [EStateM.run] at ran
      rw [List.map_cons, after, List.foldl_cons, afterEdit, Edit.perform, ran]
      exact ih (tree.call call)

/-- Calls leave in an arena what they describe as brackets, and the walk over the arena writes
it as the printer of trees does. -/
theorem after_calls (calls : List Call) :
    let arena := new.after (calls.map .call)
    ∃ children, (∀ other, words other = completed 0 calls ↔ other = children) ∧
      arena.readNode 0 = some (.node .root children) ∧
      ∀ mode, arena.render mode = some ((Tree.here children).render mode) := by
  have left := after_map_call calls .empty
  have word := Tree.words_children_foldl calls .empty
  generalize calls.foldl Tree.call .empty = tree at left word
  refine ⟨tree.children, fun other => ?_, ?_, fun mode => ?_⟩
  · constructor
    · intro same
      exact words_injective (same.trans word.symm)
    · rintro rfl
      exact word
  · rw [new_eq, left, readNode_arena]
  · rw [new_eq, left, render_arena, Tree.render, Tree.write_eq]
    rfl

end Arena

end ClauseTree
