import ClauseTree.Proofs.Template

/-!
# Templates of trees

Every token and every tree has a template, and writing the tree in either mode
is writing its template.  So the two modes walk through the same text and
differ in its holes only: literal text has the literals of the values there,
and prepared text has their placeholders, numbered from the left.
-/

namespace ClauseTree

def treeTemplate (pieces : List Piece) : Template :=
  (NodeKind.root.layout.composePieces pieces).trim

/-- Writing out the template of a whole tree gives the text of its fragments. -/
theorem write_treeTemplate (mode : Mode) (pieces : List Piece) (parameters : Parameters) :
    (treeTemplate pieces).write mode parameters =
      (treeText (writePieces mode pieces parameters).1,
        (writePieces mode pieces parameters).2) := by
  simp [treeTemplate, treeText, Template.write_trim, Layout.write_composePieces]

open Template (ofText between)

mutual

/-- The template of a token: what it is, then its cast and its alias. -/
def Token.template : Token → Template
  | ⟨kind, castType, outputName⟩ =>
      kind.template castType outputName ++ ofText (suffix castType outputName)

/-- The template of a token of some kind, without the cast and the alias.  A
prepared constant is a hole that knows them. -/
def TokenKind.template (castType : Option String) (outputName : Option Alias) :
    TokenKind → Template
  | .name text => ofText text
  | .quotedName text => ofText (Identifier.quoted text)
  | .constant value prepared =>
      if prepared then [.hole ⟨value, castType, outputName⟩] else ofText value.sql
  | .dollarString body tag => ofText (Text.dollarQuoted body tag)
  | .array items =>
      between "ARRAY[" (Template.commaSeparated (tokenTemplates items)) "]"
  | .list items =>
      between "(" (Template.commaSeparated (tokenTemplates items)) ")"
  | .call name argument =>
      if argument.kind.isList then ofText name ++ argument.template
      else between (name ++ "(") argument.template ")"
  | .emptyCall name => ofText (name ++ "()")
  | .operator symbol => ofText symbol
  | .applied symbol operand => ofText symbol ++ operand.template
  | .subQuery tree => between "(" (treeTemplate tree.pieces) ")"
  | .statement tree => treeTemplate tree.pieces
  | .values rows =>
      between "(VALUES" (Template.commaSeparated (rowTemplates rows)) ")"

def tokenTemplates : List Token → List Template
  | [] => []
  | token :: rest => token.template :: tokenTemplates rest

def rowTemplates : List (List Token) → List Template
  | [] => []
  | row :: rest =>
      between "(" (Template.commaSeparated (tokenTemplates row)) ")" :: rowTemplates rest

def Child.piece : Child → Piece
  | .leaf token => ⟨.separator, token.template⟩
  | .node kind children =>
      ⟨kind.layout.glue, kind.layout.composePieces (childPieces children)⟩

def childPieces : List Child → List Piece
  | [] => []
  | child :: rest => child.piece :: childPieces rest

/-- The pieces under the root of a tree, with the open nodes taken as closed. -/
def Tree.pieces : Tree → List Piece
  | .here children => childPieces children
  | .inside before kind rest =>
      childPieces before ++ [⟨kind.layout.glue, kind.layout.composePieces rest.pieces⟩]

end

def Tree.template (tree : Tree) : Template :=
  treeTemplate tree.pieces

/-- The pieces of two lists of children in a row. -/
theorem childPieces_append (first second : List Child) :
    childPieces (first ++ second) = childPieces first ++ childPieces second := by
  induction first with
  | nil => rfl
  | cons child rest ih => rw [List.cons_append, childPieces, childPieces, ih, List.cons_append]

theorem tokenTemplates_append (first second : List Token) :
    tokenTemplates (first ++ second) = tokenTemplates first ++ tokenTemplates second := by
  induction first with
  | nil => rfl
  | cons token rest ih =>
      rw [List.cons_append, tokenTemplates, tokenTemplates, ih, List.cons_append]

theorem rowTemplates_append (first second : List (List Token)) :
    rowTemplates (first ++ second) = rowTemplates first ++ rowTemplates second := by
  induction first with
  | nil => rfl
  | cons row rest ih => rw [List.cons_append, rowTemplates, rowTemplates, ih, List.cons_append]

/-! ### Writing a tree is writing its template -/

private theorem writePieces_append (mode : Mode) :
    ∀ (left right : List Piece) (parameters : Parameters),
      writePieces mode (left ++ right) parameters =
        ((writePieces mode left parameters).1 ++
            (writePieces mode right (writePieces mode left parameters).2).1,
          (writePieces mode right (writePieces mode left parameters).2).2)
  | [], _, _ => rfl
  | piece :: rest, right, parameters => by
      have ih := writePieces_append mode rest right (piece.template.write mode parameters).2
      simp [writePieces, ih]

mutual

/-- Cutting a token into a template loses nothing: writing the template out gives back what
the token writes, in every mode. -/
theorem Token.write_template (mode : Mode) :
    ∀ (token : Token) (parameters : Parameters),
      token.template.write mode parameters = token.write mode parameters
  | ⟨kind, castType, outputName⟩, parameters => by
      have inner := TokenKind.write_template mode castType outputName kind parameters
      simp [Token.template, Token.write, inner]

theorem TokenKind.write_template (mode : Mode) (castType : Option String)
    (outputName : Option Alias) :
    ∀ (kind : TokenKind) (parameters : Parameters),
      (kind.template castType outputName).write mode parameters =
        kind.write mode ⟨kind, castType, outputName⟩ parameters
  | .name _, _ => by simp [TokenKind.template, TokenKind.write]
  | .quotedName _, _ => by simp [TokenKind.template, TokenKind.write]
  | .constant value prepared, parameters => by
      cases prepared with
      | false => cases mode <;> simp [TokenKind.template, TokenKind.write]
      | true => simp [TokenKind.template, Template.write, Cell.write, Binding.token]
  | .dollarString _ _, _ => by simp [TokenKind.template, TokenKind.write]
  | .array items, parameters => by
      have inner := writeTemplates_tokenTemplates mode items parameters
      simp [TokenKind.template, TokenKind.write, Template.write_commaSeparated, inner]
  | .list items, parameters => by
      have inner := writeTemplates_tokenTemplates mode items parameters
      simp [TokenKind.template, TokenKind.write, Template.write_commaSeparated, inner]
  | .call _ argument, parameters => by
      have inner := Token.write_template mode argument parameters
      by_cases isList : argument.kind.isList = true
      · simp [TokenKind.template, TokenKind.write, isList, inner]
      · simp [TokenKind.template, TokenKind.write, isList, inner]
  | .emptyCall _, _ => by simp [TokenKind.template, TokenKind.write]
  | .operator _, _ => by simp [TokenKind.template, TokenKind.write]
  | .applied _ operand, parameters => by
      have inner := Token.write_template mode operand parameters
      simp [TokenKind.template, TokenKind.write, inner]
  | .subQuery tree, parameters => by
      have inner := Tree.writePieces_pieces mode tree parameters
      simp [TokenKind.template, TokenKind.write, write_treeTemplate, inner]
  | .statement tree, parameters => by
      have inner := Tree.writePieces_pieces mode tree parameters
      simp [TokenKind.template, TokenKind.write, write_treeTemplate, inner]
  | .values rows, parameters => by
      have inner := writeTemplates_rowTemplates mode rows parameters
      simp [TokenKind.template, TokenKind.write, Template.write_commaSeparated, inner]

/-- The templates of a list of tokens write out as the tokens do. -/
theorem writeTemplates_tokenTemplates (mode : Mode) :
    ∀ (items : List Token) (parameters : Parameters),
      writeTemplates mode (tokenTemplates items) parameters =
        writeTokens mode items parameters
  | [], _ => by simp [tokenTemplates, writeTemplates, writeTokens]
  | token :: rest, parameters => by
      have first := Token.write_template mode token parameters
      have others := writeTemplates_tokenTemplates mode rest
        (token.write mode parameters).2
      simp [tokenTemplates, writeTemplates, writeTokens, first, others]

theorem writeTemplates_rowTemplates (mode : Mode) :
    ∀ (rows : List (List Token)) (parameters : Parameters),
      writeTemplates mode (rowTemplates rows) parameters = writeRows mode rows parameters
  | [], _ => by simp [rowTemplates, writeTemplates, writeRows]
  | row :: rest, parameters => by
      have first := writeTemplates_tokenTemplates mode row parameters
      have others := writeTemplates_rowTemplates mode rest
        (writeTokens mode row parameters).2
      simp [rowTemplates, writeTemplates, writeRows, Template.write_commaSeparated, first,
        others]

private theorem Child.write_piece (mode : Mode) :
    ∀ (child : Child) (parameters : Parameters),
      writePieces mode [child.piece] parameters =
        ([(child.write mode parameters).1], (child.write mode parameters).2)
  | .leaf token, parameters => by
      have inner := Token.write_template mode token parameters
      simp [Child.piece, Child.write, writePieces, inner]
  | .node _ children, parameters => by
      have inner := writePieces_childPieces mode children parameters
      simp [Child.piece, Child.write, writePieces, Layout.write_composePieces, inner]

/-- The pieces of a list of children write out as its children do. -/
theorem writePieces_childPieces (mode : Mode) :
    ∀ (children : List Child) (parameters : Parameters),
      writePieces mode (childPieces children) parameters =
        writeChildren mode children parameters
  | [], _ => by simp [childPieces, writePieces, writeChildren]
  | child :: rest, parameters => by
      have first := Child.write_piece mode child parameters
      have others := writePieces_childPieces mode rest (child.write mode parameters).2
      have split := writePieces_append mode [child.piece] (childPieces rest) parameters
      rw [first] at split
      simpa [childPieces, writeChildren, others] using split

/-- The pieces of a tree write out as the tree does, open nodes included. -/
theorem Tree.writePieces_pieces (mode : Mode) :
    ∀ (tree : Tree) (parameters : Parameters),
      writePieces mode tree.pieces parameters = tree.write mode parameters
  | .here children, parameters => by
      have inner := writePieces_childPieces mode children parameters
      simp [Tree.pieces, Tree.write, inner]
  | .inside before kind rest, parameters => by
      have first := writePieces_childPieces mode before parameters
      have others := Tree.writePieces_pieces mode rest
        (writeChildren mode before parameters).2
      simp [Tree.pieces, Tree.write, writePieces_append, writePieces, first,
        Layout.write_composePieces, others]

end

/-- A tree is rendered as its template is written. -/
theorem Tree.render_eq_write_template (mode : Mode) (tree : Tree) :
    tree.render mode =
      ⟨(tree.template.write mode .empty).1, (tree.template.write mode .empty).2⟩ := by
  rw [Tree.template, write_treeTemplate, Tree.writePieces_pieces]
  rfl

/-! ### Filling the holes -/

namespace Template

/-- Fill the holes from the left, each with the content of its position,
counted on from a given one. -/
def fillFrom (content : Nat → String) (position : Nat) : Template → String
  | [] => ""
  | .char c :: rest => String.singleton c ++ fillFrom content position rest
  | .hole _ :: rest => content position ++ fillFrom content (position + 1) rest

def fill (content : Nat → String) (template : Template) : String :=
  fillFrom content 1 template

def holes : Template → List Binding
  | [] => []
  | .char _ :: rest => holes rest
  | .hole binding :: rest => binding :: holes rest

/-- Prepared text has a placeholder in every hole, numbered behind those that
were bound before, and binds the constants of the holes. -/
theorem write_prepared (style : Placeholder) :
    ∀ (template : Template) (parameters : Parameters),
      write (.prepared style) template parameters =
        (fillFrom style.text (parameters.size + 1) template,
          ⟨parameters.tokens ++ template.holes.map Binding.token⟩)
  | [], parameters => by simp [fillFrom, holes]
  | .char c :: rest, parameters => by
      have ih := write_prepared style rest parameters
      simp [fillFrom, holes, ih]
  | .hole binding :: rest, parameters => by
      have cell : (Cell.hole binding).write (.prepared style) parameters =
          bindToken style binding.token parameters := rfl
      have ih := write_prepared style rest ⟨parameters.tokens ++ [binding.token]⟩
      simp [write, cell, bindToken, Parameters.push, fillFrom, holes, ih, Parameters.size]

/-- Literal text has the literal of its value in every hole, and binds
nothing. -/
theorem write_literal (content : Nat → String) :
    ∀ (template : Template) (position : Nat) (parameters : Parameters),
      (∀ index binding, template.holes[index]? = some binding →
        content (position + index) = binding.value.sql) →
      write .literal template parameters = (fillFrom content position template, parameters)
  | [], _, _, _ => rfl
  | .char c :: rest, position, parameters, values => by
      have ih := write_literal content rest position parameters values
      simp [fillFrom, ih]
  | .hole binding :: rest, position, parameters, values => by
      have first : content position = binding.value.sql := values 0 binding rfl
      have others : ∀ index other, (holes rest)[index]? = some other →
          content (position + 1 + index) = other.value.sql := by
        intro index other found
        rw [Nat.add_assoc, Nat.add_comm 1]
        exact values (index + 1) other found
      have cell : (Cell.hole binding).write .literal parameters =
          (binding.value.sql, parameters) := rfl
      have ih := write_literal content rest (position + 1) parameters others
      simp [write, cell, fillFrom, ih, first]

end Template

/-! ### Literal and prepared text -/

/-- A tree has one text with holes behind both of its renderings.  Filling the
hole of each position with its placeholder gives the prepared text, for both
styles, and the positions run from one to the number of parameters.  Filling it
with the literal of the value at that position of the parameters gives the
literal text. -/
theorem Tree.exists_template (tree : Tree) :
    ∃ template : Template, ∀ style : Placeholder,
      (tree.prepared style).sql = template.fill style.text ∧
        template.holes.length = (tree.prepared style).parameters.size ∧
        (∀ position, 1 ≤ position → position ≤ template.holes.length →
          ((tree.prepared style).parameters.value? position).isSome) ∧
        tree.sql = template.fill fun position =>
          ((tree.prepared style).parameters.value? position).elim "" Value.sql := by
  refine ⟨tree.template, fun style => ?_⟩
  have prepared : tree.prepared style =
      ⟨tree.template.fill style.text, ⟨tree.template.holes.map Binding.token⟩⟩ := by
    rw [Tree.prepared, Tree.render_eq_write_template, Template.write_prepared]
    rfl
  have valueAt : ∀ index binding, tree.template.holes[index]? = some binding →
      (tree.prepared style).parameters.value? (index + 1) = some binding.value := by
    intro index binding found
    simp [prepared, Parameters.value?, Parameters.get?, found, Binding.token, Token.value?]
  refine ⟨by rw [prepared], by rw [prepared]; simp [Parameters.size], ?_, ?_⟩
  · intro position positive bounded
    obtain ⟨index, rfl⟩ := Nat.exists_eq_add_of_le' positive
    have inside : index < tree.template.holes.length := by omega
    rw [valueAt index _ (List.getElem?_eq_getElem inside)]
    rfl
  · have literal := Template.write_literal
      (fun position => ((tree.prepared style).parameters.value? position).elim "" Value.sql)
      tree.template 1 .empty (fun index binding found => by
        rw [Nat.add_comm, valueAt index binding found]
        rfl)
    rw [Tree.sql, Tree.render_eq_write_template, literal]
    rfl

end ClauseTree
