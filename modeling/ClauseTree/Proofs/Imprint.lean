import ClauseTree.Proofs.Brackets
import ClauseTree.Proofs.TreeTemplate

/-!
# Imprints

What a list of children leaves in a text is the pieces that are not empty.  Two trees are
alike when they have the same nodes open and the same imprint in each of them.  Alike
trees are rendered alike, and writing into them keeps them alike, whatever is opened, appended
or closed: the node that is closed is composed from its imprint alone.
-/

namespace ClauseTree

open Arena (Call)

/-- The pieces that leave a trace. -/
def imprint (children : List Child) : List Piece :=
  (childPieces children).filter fun piece => !piece.template.isEmpty

theorem imprint_nil : imprint [] = [] := by
  rw [imprint, childPieces, List.filter_nil]

/-- The imprint of two lists of children in a row. -/
theorem imprint_append (first second : List Child) :
    imprint (first ++ second) = imprint first ++ imprint second := by
  rw [imprint, childPieces_append, List.filter_append]
  rfl

/-- A node is composed from the pieces that leave a trace. -/
theorem composePieces_congr (layout : Layout) {first second : List Piece}
    (same : (first.filter fun piece => !piece.template.isEmpty) =
      second.filter fun piece => !piece.template.isEmpty) :
    layout.composePieces first = layout.composePieces second := by
  rw [Layout.composePieces, same]
  rfl

/-- Leaves with the same template leave the same imprint. -/
theorem imprint_leaf_congr {token other : Token} (same : token.template = other.template) :
    imprint [.leaf token] = imprint [.leaf other] := by
  simp only [imprint, childPieces, Child.piece, same]

private theorem imprint_node {first second : List Child} (same : imprint first = imprint second)
    (kind : NodeKind) : imprint [.node kind first] = imprint [.node kind second] := by
  rw [imprint, childPieces, Child.piece, composePieces_congr kind.layout same]
  rfl

/-! ### Alike trees -/

/-- The same nodes are open, with the same imprint. -/
inductive Tree.Alike : Tree → Tree → Prop where
  | here {first second : List Child} (same : imprint first = imprint second) :
      Alike (.here first) (.here second)
  | inside {first second : List Child} {kind : NodeKind} {rest other : Tree}
      (same : imprint first = imprint second) (inner : Alike rest other) :
      Alike (.inside first kind rest) (.inside second kind other)

namespace Tree

namespace Alike

theorem refl : ∀ tree : Tree, Alike tree tree
  | .here _ => .here rfl
  | .inside _ _ rest => .inside rfl (refl rest)

/-- Alike trees stay alike when children of one imprint are attached to them. -/
theorem attach {tree other : Tree} (alike : Alike tree other) {more others : List Child}
    (same : imprint more = imprint others) : Alike (tree.attach more) (other.attach others) := by
  induction alike with
  | here children =>
      refine .here ?_
      rw [imprint_append, imprint_append, children, same]
  | inside children _ ih => exact .inside children ih

/-- Alike trees stay alike when a node is opened in both. -/
theorem start {tree other : Tree} (alike : Alike tree other) (kind : NodeKind) :
    Alike (tree.start kind) (other.start kind) := by
  induction alike with
  | here children => exact .inside children (.here rfl)
  | inside children _ ih => exact .inside children ih

/-- Closing fails in both or in neither, and goes on in the same node. -/
theorem close {tree other : Tree} (alike : Alike tree other) :
    (tree.close = .error .unbalancedEnd ∧ other.close = .error .unbalancedEnd) ∨
      ∃ closed otherClosed, tree.close = .ok closed ∧ other.close = .ok otherClosed ∧
        Alike closed otherClosed := by
  induction alike with
  | here _ => exact .inl ⟨rfl, rfl⟩
  | @inside _ _ kind _ _ children inner ih =>
      cases inner with
      | here written =>
          refine .inr ⟨_, _, rfl, rfl, .here ?_⟩
          rw [imprint_append, imprint_append, children, imprint_node written kind]
      | inside _ _ =>
          obtain ⟨failed, -⟩ | ⟨closed, otherClosed, ran, otherRan, closedAlike⟩ := ih
          · exact nomatch Tree.depth_eq_zero_of_close _ failed
          · refine .inr ⟨.inside _ kind closed, .inside _ kind otherClosed, ?_, ?_,
            .inside children closedAlike⟩
            · rw [close_inside, ran]
              rfl
            · rw [close_inside, otherRan]
              rfl

/-- Alike trees stay alike behind the same call. -/
theorem call {tree other : Tree} (alike : Alike tree other) (call : Call) :
    Alike (tree.call call) (other.call call) := by
  cases call with
  | start kind => exact alike.start kind
  | leaf token => exact alike.attach rfl
  | leaves tokens => exact alike.attach rfl
  | close =>
      obtain ⟨failed, otherFailed⟩ | ⟨_, _, ran, otherRan, closed⟩ := alike.close
      · rw [Tree.call, Tree.call, failed, otherFailed]
        exact alike
      · rw [Tree.call, Tree.call, ran, otherRan]
        exact closed

/-- Alike trees have the same pieces, blank ones aside. -/
theorem pieces {tree other : Tree} (alike : Alike tree other) :
    (tree.pieces.filter fun piece => !piece.template.isEmpty) =
      other.pieces.filter fun piece => !piece.template.isEmpty := by
  induction alike with
  | here children => exact children
  | @inside first second kind rest other children _ ih =>
      rw [Tree.pieces, Tree.pieces, List.filter_append, List.filter_append,
        composePieces_congr kind.layout ih]
      exact congrArg (· ++ _) children

/-- Alike trees have the same template, and so the same text and parameters in every
mode. -/
theorem template {tree other : Tree} (alike : Alike tree other) :
    tree.template = other.template := by
  rw [Tree.template, treeTemplate, composePieces_congr _ alike.pieces]
  rfl

/-- Alike trees are rendered alike. -/
theorem render {tree other : Tree} (alike : Alike tree other) (mode : Mode) :
    tree.render mode = other.render mode := by
  rw [tree.render_eq_write_template, alike.template, other.render_eq_write_template]

end Alike

end Tree

/-! ### Children without a trace -/

/-- A token without text has an empty template. -/
theorem Token.template_eq_nil {token : Token} (empty : token.text = "") :
    token.template = [] := by
  rw [← Template.toList_write_eq_nil .literal token.template .empty, token.write_template]
  exact congrArg String.toList empty

/-- A tree that stands as a leaf has the text that it has by itself. -/
theorem Token.text_statement (tree : Tree) : (Token.statement tree).text = tree.sql := by
  simp [Token.text, Token.statement, Token.plain, Token.write, TokenKind.write, Tree.sql,
    Tree.render, suffix]

/-- A blank leaf leaves no imprint. -/
theorem imprint_leaf {token : Token} (empty : token.text = "") :
    imprint [.leaf token] = [] := by
  rw [imprint, childPieces, Child.piece, Token.template_eq_nil empty]
  rfl

/-- Blank leaves leave no imprint. -/
theorem imprint_leaves : ∀ {tokens : List Token}, (∀ token ∈ tokens, token.text = "") →
    imprint (tokens.map .leaf) = []
  | [], _ => imprint_nil
  | token :: rest, empty => by
      obtain ⟨first, others⟩ := List.forall_mem_cons.mp empty
      rw [List.map_cons, ← List.singleton_append, imprint_append, imprint_leaf first,
        imprint_leaves others, List.append_nil]

/-- No kind without a keyword puts parentheses around nothing. -/
theorem NodeKind.wraps_zero {kind : NodeKind} (bare : kind.layout.keyword = "") :
    kind.layout.wraps 0 = false := by
  cases kind <;> first | rfl | exact absurd bare (by decide)

/-- A node without a keyword leaves a trace only through its children. -/
theorem imprint_bare {kind : NodeKind} (bare : kind.layout.keyword = "") {children : List Child}
    (traceless : imprint children = []) : imprint [.node kind children] = [] := by
  have composed : kind.layout.composePieces (childPieces children) = [] := by
    rw [imprint] at traceless
    rw [Layout.composePieces, traceless]
    simp [NodeKind.wraps_zero bare, Layout.headedTemplate, bare, Layout.joinPieces]
  rw [imprint, childPieces, Child.piece, composed]
  rfl

/-- Nobody can tell that such children were attached. -/
theorem Tree.Alike.attach_traceless {tree other : Tree} (alike : Alike tree other)
    {children : List Child} (traceless : imprint children = []) :
    Alike tree (other.attach children) := by
  have attached : Alike (tree.attach []) (other.attach children) :=
    alike.attach traceless.symm
  rwa [Tree.attach_nil] at attached

end ClauseTree
