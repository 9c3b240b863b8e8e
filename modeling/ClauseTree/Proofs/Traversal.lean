import ClauseTree.Render
import ClauseTree.Token.Convert

/-!
# Traversal

The tokens of a tree in the order in which their texts stand, and what prepared
text binds of them.  A token comes before the tokens that it holds, and a tree
that a token holds is gone through in its place, with its open nodes taken as
closed.  Binding is a side effect of writing, and the walk drops empty
fragments only after they have been written, so nothing that was bound is
dropped with them: the parameters are the prepared constants of the traversal.
-/

namespace ClauseTree

mutual

/-- A token and the tokens inside it, itself first. -/
def Token.traversal : Token → List Token
  | ⟨kind, castType, outputName⟩ => ⟨kind, castType, outputName⟩ :: kind.traversal

/-- The tokens inside a token of some kind. -/
def TokenKind.traversal : TokenKind → List Token
  | .name _ => []
  | .quotedName _ => []
  | .constant _ _ => []
  | .dollarString _ _ => []
  | .array items => tokensTraversal items
  | .list items => tokensTraversal items
  | .call _ argument => argument.traversal
  | .emptyCall _ => []
  | .operator _ => []
  | .applied _ operand => operand.traversal
  | .subQuery tree => tree.traversal
  | .statement tree => tree.traversal
  | .values rows => rowsTraversal rows

def tokensTraversal : List Token → List Token
  | [] => []
  | token :: rest => token.traversal ++ tokensTraversal rest

def rowsTraversal : List (List Token) → List Token
  | [] => []
  | row :: rest => tokensTraversal row ++ rowsTraversal rest

def Child.traversal : Child → List Token
  | .leaf token => token.traversal
  | .node _ children => childrenTraversal children

def childrenTraversal : List Child → List Token
  | [] => []
  | child :: rest => child.traversal ++ childrenTraversal rest

/-- The tokens of a tree, those under open nodes included. -/
def Tree.traversal : Tree → List Token
  | .here children => childrenTraversal children
  | .inside before _ rest => childrenTraversal before ++ rest.traversal

end

/-! ### What a walk binds

One statement for each kind of thing that is walked over.  All of them start
from arbitrary parameters, because the walk hands on what was bound before.
-/

mutual

/-- A token binds the prepared constants of its traversal, in order, behind those bound
before. -/
theorem Token.tokens_write (style : Placeholder) :
    ∀ (token : Token) (parameters : Parameters),
      (token.write (.prepared style) parameters).2.tokens =
        parameters.tokens ++ token.traversal.filter Token.isPrepared
  | ⟨kind, castType, outputName⟩, parameters => by
      have inner := TokenKind.tokens_write style ⟨kind, castType, outputName⟩ kind rfl
        parameters
      simpa [Token.write, Token.traversal] using inner

/-- What a token of some kind binds: itself if it is a prepared constant, and
what is bound inside it. -/
theorem TokenKind.tokens_write (style : Placeholder) (whole : Token) :
    ∀ (kind : TokenKind), whole.kind = kind → ∀ (parameters : Parameters),
      (kind.write (.prepared style) whole parameters).2.tokens =
        parameters.tokens ++ (whole :: kind.traversal).filter Token.isPrepared
  | .name _, same, _ => by
      simp [TokenKind.write, TokenKind.traversal, Token.isPrepared, same]
  | .quotedName _, same, _ => by
      simp [TokenKind.write, TokenKind.traversal, Token.isPrepared, same]
  | .constant _ prepared, same, _ => by
      cases prepared <;>
        simp [TokenKind.write, TokenKind.traversal, Token.isPrepared, same, bindToken,
          Parameters.push]
  | .dollarString _ _, same, _ => by
      simp [TokenKind.write, TokenKind.traversal, Token.isPrepared, same]
  | .array items, same, parameters => by
      have inner := tokens_writeTokens style items parameters
      simp [TokenKind.write, TokenKind.traversal, Token.isPrepared, same, inner]
  | .list items, same, parameters => by
      have inner := tokens_writeTokens style items parameters
      simp [TokenKind.write, TokenKind.traversal, Token.isPrepared, same, inner]
  | .call _ argument, same, parameters => by
      have inner := Token.tokens_write style argument parameters
      simp [TokenKind.write, TokenKind.traversal, Token.isPrepared, same, inner]
  | .emptyCall _, same, _ => by
      simp [TokenKind.write, TokenKind.traversal, Token.isPrepared, same]
  | .operator _, same, _ => by
      simp [TokenKind.write, TokenKind.traversal, Token.isPrepared, same]
  | .applied _ operand, same, parameters => by
      have inner := Token.tokens_write style operand parameters
      simp [TokenKind.write, TokenKind.traversal, Token.isPrepared, same, inner]
  | .subQuery tree, same, parameters => by
      have inner := Tree.tokens_write style tree parameters
      simp [TokenKind.write, TokenKind.traversal, Token.isPrepared, same, inner]
  | .statement tree, same, parameters => by
      have inner := Tree.tokens_write style tree parameters
      simp [TokenKind.write, TokenKind.traversal, Token.isPrepared, same, inner]
  | .values rows, same, parameters => by
      have inner := tokens_writeRows style rows parameters
      simp [TokenKind.write, TokenKind.traversal, Token.isPrepared, same, inner]

/-- A list of tokens binds the prepared constants of its traversal. -/
theorem tokens_writeTokens (style : Placeholder) :
    ∀ (items : List Token) (parameters : Parameters),
      (writeTokens (.prepared style) items parameters).2.tokens =
        parameters.tokens ++ (tokensTraversal items).filter Token.isPrepared
  | [], _ => by simp [writeTokens, tokensTraversal]
  | token :: rest, parameters => by
      have first := Token.tokens_write style token parameters
      have others := tokens_writeTokens style rest
        (token.write (.prepared style) parameters).2
      simp [writeTokens, tokensTraversal, others, first]

/-- Rows of tokens bind the prepared constants of their traversal. -/
theorem tokens_writeRows (style : Placeholder) :
    ∀ (rows : List (List Token)) (parameters : Parameters),
      (writeRows (.prepared style) rows parameters).2.tokens =
        parameters.tokens ++ (rowsTraversal rows).filter Token.isPrepared
  | [], _ => by simp [writeRows, rowsTraversal]
  | row :: rest, parameters => by
      have first := tokens_writeTokens style row parameters
      have others := tokens_writeRows style rest
        (writeTokens (.prepared style) row parameters).2
      simp [writeRows, rowsTraversal, others, first]

/-- A child binds the prepared constants of its traversal. -/
theorem Child.tokens_write (style : Placeholder) :
    ∀ (child : Child) (parameters : Parameters),
      (child.write (.prepared style) parameters).2.tokens =
        parameters.tokens ++ child.traversal.filter Token.isPrepared
  | .leaf token, parameters => by
      have inner := Token.tokens_write style token parameters
      simp [Child.write, Child.traversal, inner]
  | .node _ children, parameters => by
      have inner := tokens_writeChildren style children parameters
      simp [Child.write, Child.traversal, inner]

/-- A list of children binds the prepared constants of its traversal. -/
theorem tokens_writeChildren (style : Placeholder) :
    ∀ (children : List Child) (parameters : Parameters),
      (writeChildren (.prepared style) children parameters).2.tokens =
        parameters.tokens ++ (childrenTraversal children).filter Token.isPrepared
  | [], _ => by simp [writeChildren, childrenTraversal]
  | child :: rest, parameters => by
      have first := Child.tokens_write style child parameters
      have others := tokens_writeChildren style rest
        (child.write (.prepared style) parameters).2
      simp [writeChildren, childrenTraversal, others, first]

/-- A tree binds the prepared constants of its traversal. -/
theorem Tree.tokens_write (style : Placeholder) :
    ∀ (tree : Tree) (parameters : Parameters),
      (tree.write (.prepared style) parameters).2.tokens =
        parameters.tokens ++ tree.traversal.filter Token.isPrepared
  | .here children, parameters => by
      have inner := tokens_writeChildren style children parameters
      simp [Tree.write, Tree.traversal, inner]
  | .inside before _ rest, parameters => by
      have first := tokens_writeChildren style before parameters
      have others := Tree.tokens_write style rest
        (writeChildren (.prepared style) before parameters).2
      simp [Tree.write, Tree.traversal, others, first]

end

/-! ### The parameters of a prepared text -/

private theorem Token.isPrepared_iff (token : Token) :
    token.isPrepared = true ↔ ∃ value, token.kind = .constant value true := by
  obtain ⟨kind, castType, outputName⟩ := token
  cases kind <;> simp [Token.isPrepared]

/-- The fallback of the values to send is never reached when every parameter is
a bound constant. -/
theorem Parameters.map_some_values {parameters : Parameters}
    (bound : ∀ token ∈ parameters.tokens, ∃ value, token.kind = .constant value true) :
    parameters.values.map some = parameters.tokens.map Token.value? := by
  rw [values, List.map_map]
  apply List.map_congr_left
  intro token member
  obtain ⟨value, kindEq⟩ := bound token member
  simp [Token.value?, kindEq]

/-- The parameters of a prepared text are the prepared constants of the tree. -/
theorem Tree.tokens_prepared (style : Placeholder) (tree : Tree) :
    (tree.prepared style).parameters.tokens =
      tree.traversal.filter Token.isPrepared := by
  simpa [Tree.prepared, Tree.render, Parameters.empty] using
    Tree.tokens_write style tree .empty

/-- Every bound parameter is a constant marked as prepared. -/
theorem Tree.parameters_bound (style : Placeholder) (tree : Tree) :
    ∀ token ∈ (tree.prepared style).parameters.tokens,
      ∃ value, token.kind = .constant value true := by
  intro token member
  rw [Tree.tokens_prepared] at member
  exact token.isPrepared_iff.1 (List.mem_filter.1 member).2

/-- The parameters of a prepared text are the prepared constants of the tree in
the order of its traversal, with their casts and aliases, each as often as the
traversal meets it.  So every one of them has a value of its own to send, and
the positions that hold one are those from one to their number. -/
theorem Tree.parameters_prepared (style : Placeholder) (tree : Tree) :
    (tree.prepared style).parameters.tokens = tree.traversal.filter Token.isPrepared ∧
      (∀ token ∈ (tree.prepared style).parameters.tokens,
        ∃ value, token.kind = .constant value true) ∧
      (tree.prepared style).parameters.values.map some =
        (tree.prepared style).parameters.tokens.map Token.value? ∧
      ∀ position, ((tree.prepared style).parameters.get? position).isSome ↔
        1 ≤ position ∧ position ≤ (tree.prepared style).parameters.size := by
  have bound := Tree.parameters_bound style tree
  exact ⟨Tree.tokens_prepared style tree, bound, Parameters.map_some_values bound,
    Parameters.get?_isSome_iff _⟩

/-! ### Given values -/

/-- A value that is given as an operand is bound: prepared text has the next placeholder in
its place. -/
theorem write_toOperand {α : Type} [ToValue α] (value : α) (style : Placeholder)
    (parameters : Parameters) :
    (toOperand value : Token).write (.prepared style) parameters =
      (style.text (parameters.size + 1), (parameters.push (toOperand value)).2) := by
  simp [toOperand, Token.constant, Token.plain, Token.write, TokenKind.write, bindToken,
    Parameters.push, suffix]

/-- A value that is given as a piece of SQL is written out in every mode, and nothing is
bound. -/
theorem write_toToken {α : Type} [ToLiteral α] (value : α) (mode : Mode)
    (parameters : Parameters) :
    (toToken value : Token).write mode parameters = ((toValue value).sql, parameters) := by
  cases mode <;>
    simp [toToken, Token.number, Token.plain, Token.write, TokenKind.write, suffix]

end ClauseTree
