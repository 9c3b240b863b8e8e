import Mathlib.Data.List.Forall2
import ClauseTree.Proofs.Traversal

/-!
# Redaction

Two trees that differ only in the values of their prepared constants become one
tree when these values are replaced by nulls.  Writing a redacted tree gives
the same prepared text as writing the tree itself, and redacted parameters: the
walk hands on nothing of a prepared constant but its position.  So no value,
whatever its text, reaches the prepared text.
-/

namespace ClauseTree

mutual

/-- The token with a null in place of every prepared value. -/
def Token.redacted : Token → Token
  | ⟨kind, castType, outputName⟩ => ⟨kind.redacted, castType, outputName⟩

def TokenKind.redacted : TokenKind → TokenKind
  | .name text => .name text
  | .quotedName text => .quotedName text
  | .constant value prepared => .constant (if prepared then .null else value) prepared
  | .dollarString body tag => .dollarString body tag
  | .array items => .array (redactedTokens items)
  | .list items => .list (redactedTokens items)
  | .call name argument => .call name argument.redacted
  | .emptyCall name => .emptyCall name
  | .operator symbol => .operator symbol
  | .applied symbol operand => .applied symbol operand.redacted
  | .subQuery tree => .subQuery tree.redacted
  | .statement tree => .statement tree.redacted
  | .values rows => .values (redactedRows rows)

def redactedTokens : List Token → List Token
  | [] => []
  | token :: rest => token.redacted :: redactedTokens rest

def redactedRows : List (List Token) → List (List Token)
  | [] => []
  | row :: rest => redactedTokens row :: redactedRows rest

def Child.redacted : Child → Child
  | .leaf token => .leaf token.redacted
  | .node kind children => .node kind (redactedChildren children)

def redactedChildren : List Child → List Child
  | [] => []
  | child :: rest => child.redacted :: redactedChildren rest

/-- The tree with a null in place of every prepared value, the values in
embedded trees included. -/
def Tree.redacted : Tree → Tree
  | .here children => .here (redactedChildren children)
  | .inside before kind rest => .inside (redactedChildren before) kind rest.redacted

end

def Parameters.redacted (parameters : Parameters) : Parameters :=
  ⟨parameters.tokens.map Token.redacted⟩

/-- Redaction does not turn other arguments into lists, or lists into others. -/
@[simp] theorem Token.isList_redacted (token : Token) :
    token.redacted.kind.isList = token.kind.isList := by
  obtain ⟨kind, castType, outputName⟩ := token
  cases kind <;> rfl

private theorem bindToken_redacted (style : Placeholder) (token : Token)
    (parameters : Parameters) :
    bindToken style token.redacted parameters.redacted =
      ((bindToken style token parameters).1,
        (bindToken style token parameters).2.redacted) := by
  simp [bindToken, Parameters.push, Parameters.redacted, Parameters.size]

/-! ### Writing a redacted tree

The induction runs over everything that the walk meets, from arbitrary
parameters: text and structure are kept, and the parameters are redacted.
-/

mutual

private theorem Token.write_redacted (style : Placeholder) :
    ∀ (token : Token) (parameters : Parameters),
      token.redacted.write (.prepared style) parameters.redacted =
        ((token.write (.prepared style) parameters).1,
          (token.write (.prepared style) parameters).2.redacted)
  | ⟨kind, castType, outputName⟩, parameters => by
      have inner := TokenKind.write_redacted style ⟨kind, castType, outputName⟩ kind
        parameters
      simp only [Token.redacted] at inner
      simp [Token.redacted, Token.write, inner]

private theorem TokenKind.write_redacted (style : Placeholder) (whole : Token) :
    ∀ (kind : TokenKind) (parameters : Parameters),
      kind.redacted.write (.prepared style) whole.redacted parameters.redacted =
        ((kind.write (.prepared style) whole parameters).1,
          (kind.write (.prepared style) whole parameters).2.redacted)
  | .name _, _ => by simp [TokenKind.redacted, TokenKind.write]
  | .quotedName _, _ => by simp [TokenKind.redacted, TokenKind.write]
  | .constant _ prepared, parameters => by
      cases prepared with
      | false => simp [TokenKind.redacted, TokenKind.write]
      | true => exact bindToken_redacted style whole parameters
  | .dollarString _ _, _ => by simp [TokenKind.redacted, TokenKind.write]
  | .array items, parameters => by
      have inner := writeTokens_redacted style items parameters
      simp [TokenKind.redacted, TokenKind.write, inner]
  | .list items, parameters => by
      have inner := writeTokens_redacted style items parameters
      simp [TokenKind.redacted, TokenKind.write, inner]
  | .call _ argument, parameters => by
      have inner := Token.write_redacted style argument parameters
      simp [TokenKind.redacted, TokenKind.write, inner]
  | .emptyCall _, _ => by simp [TokenKind.redacted, TokenKind.write]
  | .operator _, _ => by simp [TokenKind.redacted, TokenKind.write]
  | .applied _ operand, parameters => by
      have inner := Token.write_redacted style operand parameters
      simp [TokenKind.redacted, TokenKind.write, inner]
  | .subQuery tree, parameters => by
      have inner := Tree.write_redacted style tree parameters
      simp [TokenKind.redacted, TokenKind.write, inner]
  | .statement tree, parameters => by
      have inner := Tree.write_redacted style tree parameters
      simp [TokenKind.redacted, TokenKind.write, inner]
  | .values rows, parameters => by
      have inner := writeRows_redacted style rows parameters
      simp [TokenKind.redacted, TokenKind.write, inner]

private theorem writeTokens_redacted (style : Placeholder) :
    ∀ (items : List Token) (parameters : Parameters),
      writeTokens (.prepared style) (redactedTokens items) parameters.redacted =
        ((writeTokens (.prepared style) items parameters).1,
          (writeTokens (.prepared style) items parameters).2.redacted)
  | [], _ => by simp [redactedTokens, writeTokens]
  | token :: rest, parameters => by
      have first := Token.write_redacted style token parameters
      have others := writeTokens_redacted style rest
        (token.write (.prepared style) parameters).2
      simp [redactedTokens, writeTokens, first, others]

private theorem writeRows_redacted (style : Placeholder) :
    ∀ (rows : List (List Token)) (parameters : Parameters),
      writeRows (.prepared style) (redactedRows rows) parameters.redacted =
        ((writeRows (.prepared style) rows parameters).1,
          (writeRows (.prepared style) rows parameters).2.redacted)
  | [], _ => by simp [redactedRows, writeRows]
  | row :: rest, parameters => by
      have first := writeTokens_redacted style row parameters
      have others := writeRows_redacted style rest
        (writeTokens (.prepared style) row parameters).2
      simp [redactedRows, writeRows, first, others]

private theorem Child.write_redacted (style : Placeholder) :
    ∀ (child : Child) (parameters : Parameters),
      child.redacted.write (.prepared style) parameters.redacted =
        ((child.write (.prepared style) parameters).1,
          (child.write (.prepared style) parameters).2.redacted)
  | .leaf token, parameters => by
      have inner := Token.write_redacted style token parameters
      simp [Child.redacted, Child.write, inner]
  | .node _ children, parameters => by
      have inner := writeChildren_redacted style children parameters
      simp [Child.redacted, Child.write, inner]

private theorem writeChildren_redacted (style : Placeholder) :
    ∀ (children : List Child) (parameters : Parameters),
      writeChildren (.prepared style) (redactedChildren children) parameters.redacted =
        ((writeChildren (.prepared style) children parameters).1,
          (writeChildren (.prepared style) children parameters).2.redacted)
  | [], _ => by simp [redactedChildren, writeChildren]
  | child :: rest, parameters => by
      have first := Child.write_redacted style child parameters
      have others := writeChildren_redacted style rest
        (child.write (.prepared style) parameters).2
      simp [redactedChildren, writeChildren, first, others]

/-- Redacting a tree redacts the parameters it binds and changes nothing of its text. -/
theorem Tree.write_redacted (style : Placeholder) :
    ∀ (tree : Tree) (parameters : Parameters),
      tree.redacted.write (.prepared style) parameters.redacted =
        ((tree.write (.prepared style) parameters).1,
          (tree.write (.prepared style) parameters).2.redacted)
  | .here children, parameters => by
      have inner := writeChildren_redacted style children parameters
      simp [Tree.redacted, Tree.write, inner]
  | .inside before _ rest, parameters => by
      have first := writeChildren_redacted style before parameters
      have others := Tree.write_redacted style rest
        (writeChildren (.prepared style) before parameters).2
      simp [Tree.redacted, Tree.write, first, others]

end

/-- The prepared text of a redacted tree is that of the tree, and its parameters are the
redacted ones. -/
theorem Tree.prepared_redacted (style : Placeholder) (tree : Tree) :
    tree.redacted.prepared style =
      ⟨(tree.prepared style).sql, (tree.prepared style).parameters.redacted⟩ := by
  have written := Tree.write_redacted style tree .empty
  have start : Parameters.empty.redacted = Parameters.empty := rfl
  rw [start] at written
  simp [Tree.prepared, Tree.render, written]

/-! ### Two trees with other values -/

/-- Two bound constants with the same cast and alias, whatever their values. -/
def Token.SameButValue (first second : Token) : Prop :=
  ∃ value value' castType outputName,
    first = ⟨.constant value true, castType, outputName⟩ ∧
      second = ⟨.constant value' true, castType, outputName⟩

/-- Prepared constants that redaction makes equal differ in their values only. -/
theorem Token.sameButValue_of_redacted_eq {first second : Token}
    (firstBound : ∃ value, first.kind = .constant value true)
    (secondBound : ∃ value, second.kind = .constant value true)
    (same : first.redacted = second.redacted) : first.SameButValue second := by
  obtain ⟨kind, castType, outputName⟩ := first
  obtain ⟨kind', castType', outputName'⟩ := second
  obtain ⟨value, rfl⟩ := firstBound
  obtain ⟨value', rfl⟩ := secondBound
  simp only [Token.redacted, Token.mk.injEq] at same
  obtain ⟨_, rfl, rfl⟩ := same
  exact ⟨value, value', castType, outputName, rfl, rfl⟩

private theorem forall₂_sameButValue : ∀ {first second : List Token},
    (∀ token ∈ first, ∃ value, token.kind = .constant value true) →
    (∀ token ∈ second, ∃ value, token.kind = .constant value true) →
    first.map Token.redacted = second.map Token.redacted →
    List.Forall₂ Token.SameButValue first second
  | [], [], _, _, _ => .nil
  | [], _ :: _, _, _, same => by simp at same
  | _ :: _, [], _, _, same => by simp at same
  | token :: first, token' :: second, firstBound, secondBound, same => by
      rw [List.map_cons, List.map_cons, List.cons.injEq] at same
      refine .cons ?_ ?_
      · exact Token.sameButValue_of_redacted_eq (firstBound token (by simp))
          (secondBound token' (by simp)) same.1
      · exact forall₂_sameButValue
          (fun other member => firstBound other (List.mem_cons_of_mem _ member))
          (fun other member => secondBound other (List.mem_cons_of_mem _ member)) same.2

/-- Trees that differ only in the values of their prepared constants have the
same prepared text, and as many parameters, which differ position by position
only in their values. -/
theorem Tree.prepared_sql_eq_of_redacted_eq (style : Placeholder) {first second : Tree}
    (same : first.redacted = second.redacted) :
    (first.prepared style).sql = (second.prepared style).sql ∧
      (first.prepared style).parameters.size = (second.prepared style).parameters.size ∧
      List.Forall₂ Token.SameButValue (first.prepared style).parameters.tokens
        (second.prepared style).parameters.tokens := by
  have redactedEq : (⟨(first.prepared style).sql,
        (first.prepared style).parameters.redacted⟩ : Prepared) =
      ⟨(second.prepared style).sql, (second.prepared style).parameters.redacted⟩ := by
    rw [← Tree.prepared_redacted, ← Tree.prepared_redacted, same]
  rw [Prepared.mk.injEq] at redactedEq
  obtain ⟨sqlEq, parametersEq⟩ := redactedEq
  have pointwise := forall₂_sameButValue
    (Tree.parameters_bound style first) (Tree.parameters_bound style second)
    (congrArg Parameters.tokens parametersEq)
  exact ⟨sqlEq, pointwise.length_eq, pointwise⟩

/-- A quoting character in a text and a null, both bound inside a sub-query. -/
theorem prepared_sql_eq_text_null :
    let query (value : Value) : Tree :=
      .here [.node .select [.leaf (.subQuery (.here [.leaf ((Token.constant value).cast "t")]))]]
    (query (.text "x' OR '1'='1")).redacted = (query .null).redacted ∧
      ((query (.text "x' OR '1'='1")).prepared .dollar).sql =
        ((query .null).prepared .dollar).sql :=
  ⟨rfl, (Tree.prepared_sql_eq_of_redacted_eq .dollar rfl).1⟩

end ClauseTree
