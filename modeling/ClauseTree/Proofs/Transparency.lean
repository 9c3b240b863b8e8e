import ClauseTree.Proofs.Embedding
import ClauseTree.Proofs.Imprint
import Mathlib.Logic.Function.Iterate

/-!
# Statements by value and by reference

A statement that is taken by value is taken as its tree.  Taken by reference it is assembled
into a new tree, and if it is a tree by hand it becomes the only leaf there.  The leaf is
transparent: its text has been trimmed already, and a root with one written child is written
as that child.

So both trees have one template, and whatever holds one of them may hold the other: the
place is filled with the same text, at any depth, and no token, node or statement around it
looks at the tree itself.
-/

namespace ClauseTree

/-! ### Wrapping -/

/-- Trimming twice is trimming once. -/
theorem Template.trim_trim (template : Template) : template.trim.trim = template.trim := by
  rw [trim, trim, dropWhile_rdropWhile_dropWhile, List.rdropWhile_idempotent]

/-- A root is written as its only child. -/
theorem composePieces_root_singleton (piece : Piece) :
    NodeKind.root.layout.composePieces [piece] = piece.template := by
  obtain ⟨glue, template⟩ := piece
  cases template with
  | nil => rfl
  | cons cell rest => exact List.append_nil _

private theorem Token.template_statement (tree : Tree) :
    (Token.statement tree).template = tree.template :=
  List.append_nil _

namespace Tree

/-- A tree and its wrapped form have one template. -/
theorem template_wrapped (tree : Tree) : tree.wrapped.template = tree.template := by
  rw [template, wrapped, pieces, childPieces, childPieces, treeTemplate, Child.piece,
    composePieces_root_singleton, Token.template_statement, template, treeTemplate,
    Template.trim_trim]

/-- However often a tree is wrapped, its template stays the same. -/
theorem template_iterate_wrapped (tree : Tree) (n : Nat) :
    (wrapped^[n] tree).template = tree.template := by
  induction n with
  | zero => rfl
  | succ n ih => rw [Function.iterate_succ_apply', template_wrapped, ih]

/-- Trees with one template are written alike, with the same parameters. -/
theorem render_eq_of_template_eq {tree other : Tree} (same : tree.template = other.template)
    (mode : Mode) : tree.render mode = other.render mode := by
  rw [render_eq_write_template, same, render_eq_write_template]

end Tree

/-- The two ways of taking a statement lead to one template. -/
theorem Statement.template_assembled (statement : Statement) :
    statement.assembled.template = statement.toTree.template := by
  cases statement with
  | tree written =>
      rw [assembled_eq_here]
      exact written.template_wrapped
  | _ => rfl

/-! ### Places that a template fills -/

section

variable {tree other : Tree}

mutual

/-- A place looks only at the template of the tree that fills it. -/
theorem TokenSite.template_fill_congr (same : tree.template = other.template) :
    ∀ site : TokenSite, (site.fill tree).template = (site.fill other).template
  | ⟨kind, castType, outputName⟩ => by
      rw [TokenSite.fill, TokenSite.fill, Token.template, Token.template,
        kind.template_fill_congr same]

private theorem KindSite.template_fill_congr (same : tree.template = other.template)
    {castType : Option String} {outputName : Option Alias} : ∀ site : KindSite,
      (site.fill tree).template castType outputName =
        (site.fill other).template castType outputName
  | .subQuery => congrArg (Template.between "(" · ")") same
  | .statement => same
  | .array before site after => by
      simp only [KindSite.fill, TokenKind.template, tokenTemplates_filled,
        site.template_fill_congr same]
  | .list before site after => by
      simp only [KindSite.fill, TokenKind.template, tokenTemplates_filled,
        site.template_fill_congr same]
  | .call name site => by
      simp only [KindSite.fill, TokenKind.template, TokenSite.kind_fill, KindSite.isList_fill,
        site.template_fill_congr same]
  | .applied symbol site => by
      simp only [KindSite.fill, TokenKind.template, site.template_fill_congr same]
  | .inSubQuery site => by
      simp only [KindSite.fill, TokenKind.template, site.pieces_fill_congr same]
  | .inStatement site => by
      simp only [KindSite.fill, TokenKind.template, site.pieces_fill_congr same]
  | .values rowsBefore before site after rowsAfter => by
      simp only [KindSite.fill, TokenKind.template, rowTemplates_append, rowTemplates,
        tokenTemplates_filled, site.template_fill_congr same]

private theorem ChildSite.piece_fill_congr (same : tree.template = other.template) :
    ∀ site : ChildSite, (site.fill tree).piece = (site.fill other).piece
  | .leaf site => by
      rw [ChildSite.fill, ChildSite.fill, Child.piece, Child.piece, site.template_fill_congr same]
  | .node kind before site after => by
      simp only [ChildSite.fill, Child.piece, childPieces_append, childPieces,
        site.piece_fill_congr same]

/-- The same holds of a place anywhere in a tree. -/
theorem TreeSite.pieces_fill_congr (same : tree.template = other.template) :
    ∀ site : TreeSite, (site.fill tree).pieces = (site.fill other).pieces
  | .here before site after => by
      simp only [TreeSite.fill, Tree.pieces, childPieces_append, childPieces,
        site.piece_fill_congr same]
  | .finished before site after kind rest => by
      simp only [TreeSite.fill, Tree.pieces, childPieces_append, childPieces,
        site.piece_fill_congr same]
  | .inside before kind site => by
      rw [TreeSite.fill, TreeSite.fill, Tree.pieces, Tree.pieces, site.pieces_fill_congr same]

end

end

/-! ### Steps that write either tree -/

/-- The same steps, but for tokens that hold one tree where the other steps hold another one. -/
inductive Interchanged (tree other : Tree) : List Step → List Step → Prop where
  | same (steps : List Step) : Interchanged tree other steps steps
  | leaf (site : TokenSite) :
      Interchanged tree other [.leaf (site.fill tree)] [.leaf (site.fill other)]
  | append {first second others more : List Step} (left : Interchanged tree other first others)
      (right : Interchanged tree other second more) :
      Interchanged tree other (first ++ second) (others ++ more)

/-- Two plays end alike. -/
inductive Tree.Outcome : Except BuildError Tree → Except BuildError Tree → Prop where
  | ok {left other : Tree} (alike : left.Alike other) : Outcome (.ok left) (.ok other)
  | error (error : BuildError) : Outcome (.error error) (.error error)

namespace Tree.Alike

/-- Steps that are taken on trees that look alike end alike. -/
theorem play {tree other : Tree} (alike : tree.Alike other) {rest more : List Step}
    (next : ∀ left otherLeft : Tree, left.Alike otherLeft →
      Outcome (left.play rest) (otherLeft.play more)) :
    ∀ steps : List Step, Outcome (tree.play (steps ++ rest)) (other.play (steps ++ more))
  | [] => next tree other alike
  | .start kind :: steps => (alike.start kind).play next steps
  | .leaf token :: steps => (alike.attach rfl).play next steps
  | .close :: steps => by
      rw [List.cons_append, List.cons_append, Tree.play, Tree.play]
      obtain ⟨failed, otherFailed⟩ | ⟨_, _, ran, otherRan, closed⟩ := alike.close
      · rw [failed, otherFailed]
        exact .error _
      · rw [ran, otherRan]
        exact closed.play next steps

end Tree.Alike

namespace Interchanged

variable {tree other : Tree}

/-- Such steps end alike if those behind them do. -/
theorem play (same : tree.template = other.template) {steps others : List Step}
    (interchanged : Interchanged tree other steps others) {rest more : List Step}
    (next : ∀ left otherLeft : Tree, left.Alike otherLeft →
      Tree.Outcome (left.play rest) (otherLeft.play more)) :
    ∀ left otherLeft : Tree, left.Alike otherLeft →
      Tree.Outcome (left.play (steps ++ rest)) (otherLeft.play (others ++ more)) := by
  induction interchanged generalizing rest more with
  | same steps => exact fun _ _ alike => alike.play next steps
  | leaf site =>
      intro left otherLeft alike
      exact next _ _ (alike.attach (imprint_leaf_congr (site.template_fill_congr same)))
  -- What follows the first steps are the second ones and then the rest.
  | append _ _ first second =>
      rw [List.append_assoc, List.append_assoc]
      exact first (second next)

/-- Histories that differ in one exchange write trees with one template. -/
theorem template_written (same : tree.template = other.template) {steps others : List Step}
    (interchanged : Interchanged tree other steps others) :
    (Tree.empty.written steps).template = (Tree.empty.written others).template := by
  have done : ∀ left otherLeft : Tree, left.Alike otherLeft →
      Tree.Outcome (left.play []) (otherLeft.play []) := fun _ _ alike => .ok alike
  have outcome := interchanged.play same done .empty .empty (.refl .empty)
  rw [List.append_nil, List.append_nil] at outcome
  rw [Tree.written, Tree.written]
  generalize Tree.empty.play steps = one at outcome
  generalize Tree.empty.play others = two at outcome
  cases outcome with
  | ok alike => exact alike.template
  | error error => rfl

/-! ### Statements that take a statement in -/

/-- The steps in front and behind do not matter. -/
theorem around {steps others : List Step} (interchanged : Interchanged tree other steps others)
    (front back : List Step) :
    Interchanged tree other (front ++ steps ++ back) (front ++ others ++ back) :=
  ((same front).append interchanged).append (same back)

/-- An exchange in one element is an exchange in the list of them. -/
theorem flatMap {α : Type} {step : α → List Step} {element value : α}
    (interchanged : Interchanged tree other (step element) (step value)) (before after : List α) :
    Interchanged tree other ((before ++ element :: after).flatMap step)
      ((before ++ value :: after).flatMap step) := by
  rw [List.flatMap_append, List.flatMap_cons, List.flatMap_append, List.flatMap_cons]
  exact (same _).append (interchanged.append (same _))

/-- The operand of a set operation can be exchanged. -/
theorem operand (operator : SetOperator) :
    Interchanged tree other (Select.setOperationSteps (operator, tree))
      (Select.setOperationSteps (operator, other)) :=
  (leaf ⟨.statement, none, none⟩).around [.start operator.kind] [.close]

/-- A named query can be exchanged. -/
theorem cte (name : String) (columns : List String) :
    Interchanged tree other (Cte.steps ⟨name, columns, tree⟩)
      (Cte.steps ⟨name, columns, other⟩) := by
  have query : Interchanged tree other ([.leaf (.name "AS")] ++ [.leaf (.subQuery tree)] ++ [])
      ([.leaf (.name "AS")] ++ [.leaf (.subQuery other)] ++ []) :=
    (leaf ⟨.subQuery, none, none⟩).around [.leaf (.name "AS")] []
  rw [Cte.steps, Cte.steps]
  exact query.around _ [.close]

/-- A named query among others can be exchanged. -/
theorem named (recursive : Bool) (before : List Cte) (name : String) (columns : List String)
    (after : List Cte) :
    Interchanged tree other
      (With.steps ⟨recursive, before ++ ⟨name, columns, tree⟩ :: after⟩)
      (With.steps ⟨recursive, before ++ ⟨name, columns, other⟩ :: after⟩) := by
  have someQuery (query : Tree) :
      ¬With.isEmpty ⟨recursive, before ++ ⟨name, columns, query⟩ :: after⟩ = true := by
    simp [With.isEmpty]
  rw [With.steps, With.steps, if_neg (someQuery tree), if_neg (someQuery other)]
  exact ((cte name columns).flatMap before after).around _ [.close]

private theorem combined (query : Select) (operator : SetOperator) :
    Interchanged tree other (Statement.select (query.combine operator tree)).steps
      (Statement.select (query.combine operator other)).steps := by
  have operations : Interchanged tree other
      ((query.setOperations ++ [(operator, tree)]).flatMap Select.setOperationSteps)
      ((query.setOperations ++ [(operator, other)]).flatMap Select.setOperationSteps) :=
    (operand operator).flatMap query.setOperations []
  rw [Statement.steps, Statement.steps, Select.steps, Select.steps]
  exact ((((operations.around _ _).append (same _)).append (same _)).append (same _))

/-- A source that holds a sub-query can be exchanged. -/
theorem source (query : Select) (before : List FromItem) (item : FromItem) (site : TokenSite)
    (after : List FromItem) :
    let sources (held : Tree) := before ++ { item with source := site.fill held } :: after
    Interchanged tree other (Statement.select (query.addSources (sources tree))).steps
      (Statement.select (query.addSources (sources other))).steps := by
  intro sources
  have each : Interchanged tree other (FromItem.steps { item with source := site.fill tree })
      (FromItem.steps { item with source := site.fill other }) := by
    rw [FromItem.steps, FromItem.steps]
    exact ((leaf site).around _ _).append (same _)
  have list : Interchanged tree other (FromItem.clauseSteps (query.sources ++ sources tree))
      (FromItem.clauseSteps (query.sources ++ sources other)) := by
    have someSource (held : Tree) : ¬(query.sources ++ sources held).isEmpty = true := by
      simp [sources]
    rw [FromItem.clauseSteps, FromItem.clauseSteps, if_neg (someSource tree),
      if_neg (someSource other), ← List.append_assoc, ← List.append_assoc]
    exact (each.flatMap (query.sources ++ before) after).around _ [.close]
  simp only [Statement.steps, Select.steps, List.append_assoc]
  exact (same _).append ((same _).append (list.append (same _)))

/-- The query of an insertion can be exchanged. -/
theorem rows (insertion : Insert) :
    Interchanged tree other (Statement.insert (insertion.query tree)).steps
      (Statement.insert (insertion.query other)).steps := by
  have source : Interchanged tree other (insertion.query tree).sourceSteps
      (insertion.query other).sourceSteps := leaf ⟨.statement, none, none⟩
  rw [Statement.steps, Statement.steps, Insert.steps, Insert.steps]
  exact (source.around _ _).append (same _)

end Interchanged

/-! ### By value and by reference -/

namespace Statement

/-- Two statements have the same literal text, and the same prepared text and parameters. -/
def RendersAs (statement other : Statement) : Prop :=
  statement.sql = other.sql ∧ ∀ style, statement.prepared style = other.prepared style

/-- Statements whose trees have one template render the same in every mode. -/
theorem rendersAs_of_template_eq {statement other : Statement}
    (same : statement.toTree.template = other.toTree.template) : statement.RendersAs other :=
  ⟨congrArg Prepared.sql (Tree.render_eq_of_template_eq same .literal),
    fun style => Tree.render_eq_of_template_eq same (.prepared style)⟩

/-- Statements that differ in one exchange render the same in every mode. -/
theorem rendersAs_of_interchanged {tree other : Tree} (same : tree.template = other.template)
    {outer otherOuter : Statement}
    (interchanged : Interchanged tree other outer.steps otherOuter.steps) :
    outer.RendersAs otherOuter := by
  apply rendersAs_of_template_eq
  rw [← outer.template_assembled, ← otherOuter.template_assembled]
  exact interchanged.template_written same

end Statement

/-- Whichever of the clauses stands in front of a statement, it is rendered alike. -/
structure With.RendersAs (clause other : With) : Prop where
  select : ∀ query : Select,
    Statement.RendersAs (.select { query with withClause := some clause })
      (.select { query with withClause := some other })
  insert : ∀ insertion : Insert,
    Statement.RendersAs (.insert { insertion with withClause := some clause })
      (.insert { insertion with withClause := some other })
  update : ∀ change : Update,
    Statement.RendersAs (.update { change with withClause := some clause })
      (.update { change with withClause := some other })
  delete : ∀ deletion : Delete,
    Statement.RendersAs (.delete { deletion with withClause := some clause })
      (.delete { deletion with withClause := some other })

private theorem With.rendersAs_of_interchanged {tree other : Tree}
    (same : tree.template = other.template) {clause otherClause : With}
    (interchanged : Interchanged tree other clause.steps otherClause.steps) :
    clause.RendersAs otherClause := by
  refine ⟨fun query => ?select, fun insertion => ?insert, fun change => ?update,
    fun deletion => ?delete⟩
  case select =>
    apply Statement.rendersAs_of_interchanged same
    simp only [Statement.steps, Select.steps, List.append_assoc]
    exact interchanged.append (.same _)
  case insert =>
    apply Statement.rendersAs_of_interchanged same
    simp only [Statement.steps, Insert.steps, List.append_assoc]
    exact interchanged.append (.same _)
  case update =>
    apply Statement.rendersAs_of_interchanged same
    simp only [Statement.steps, Update.steps, List.append_assoc]
    exact interchanged.append (.same _)
  case delete =>
    apply Statement.rendersAs_of_interchanged same
    simp only [Statement.steps, Delete.steps, List.append_assoc]
    exact interchanged.append (.same _)

/-- It does not matter whether a statement is taken by value, as its own tree, or by reference,
as the tree that it is assembled to. -/
structure Statement.TakenEitherWay (statement : Statement) : Prop where
  operand : ∀ (query : Select) (operator : SetOperator),
    RendersAs (.select (query.combine operator statement.toTree))
      (.select (query.combine operator statement.assembled))
  rows : ∀ insertion : Insert,
    RendersAs (.insert (insertion.query statement.toTree))
      (.insert (insertion.query statement.assembled))
  /-- As the query of a name, wherever it stands among the named queries. -/
  named : ∀ (recursive : Bool) (before : List Cte) (name : String) (columns : List String)
    (after : List Cte),
    With.RendersAs ⟨recursive, before ++ ⟨name, columns, statement.toTree⟩ :: after⟩
      ⟨recursive, before ++ ⟨name, columns, statement.assembled⟩ :: after⟩
  /-- Inside of the token of a row source, as in a sub-query with a name. -/
  source : ∀ (query : Select) (before : List FromItem) (item : FromItem) (site : TokenSite)
    (after : List FromItem),
    let sources (tree : Tree) := before ++ { item with source := site.fill tree } :: after
    RendersAs (.select (query.addSources (sources statement.toTree)))
      (.select (query.addSources (sources statement.assembled)))
  /-- Inside of any tokens that statements write, as a sub-query or without parentheses. -/
  token : ∀ outer other : Statement,
    Interchanged statement.toTree statement.assembled outer.steps other.steps →
      outer.RendersAs other
  /-- At any place of a tree. -/
  place : ∀ site : TreeSite,
    RendersAs (.tree (site.fill statement.toTree)) (.tree (site.fill statement.assembled))

/-- Taken by value or by reference, a statement leaves the same text in every place that
takes one. -/
theorem Statement.takenEitherWay (statement : Statement) : statement.TakenEitherWay := by
  have same := statement.template_assembled.symm
  refine ⟨?operand, ?rows, ?named, ?source, fun _ _ => rendersAs_of_interchanged same, ?place⟩
  case operand =>
    intro query operator
    exact rendersAs_of_interchanged same (.combined query operator)
  case rows =>
    intro insertion
    exact rendersAs_of_interchanged same (.rows insertion)
  case named =>
    intro recursive before name columns after
    exact With.rendersAs_of_interchanged same (.named recursive before name columns after)
  case source =>
    intro query before item site after
    exact rendersAs_of_interchanged same (.source query before item site after)
  case place =>
    intro site
    exact rendersAs_of_template_eq (congrArg treeTemplate (site.pieces_fill_congr same))

/-- A leaf that holds a tree is transparent.  However often a tree is wrapped as the only leaf
of a new one, the text and the parameters are its own, whatever nodes are open in it; so
every statement may be taken by value or by reference. -/
theorem Statement.transparent :
    (∀ (tree : Tree) (n : Nat), (Tree.wrapped^[n] tree).sql = tree.sql ∧
      ∀ style, (Tree.wrapped^[n] tree).prepared style = tree.prepared style) ∧
    ∀ statement : Statement, statement.TakenEitherWay := by
  refine ⟨fun tree n => ?_, takenEitherWay⟩
  have same := tree.template_iterate_wrapped n
  exact ⟨congrArg Prepared.sql (Tree.render_eq_of_template_eq same .literal),
    fun style => Tree.render_eq_of_template_eq same (.prepared style)⟩

/-- An open tree behind `EXISTS`. -/
theorem Statement.transparent_exists :
    let tree : Tree := .inside [] .select (.here [.leaf (Token.constant (.int 1)).prepared])
    let outer (held : Tree) : Statement := .delete
      ((Delete.ofTable (.name "t")).pushWhere .and
        (.predicate [.name "EXISTS", .subQuery held]))
    Interchanged tree tree.wrapped (outer tree).steps (outer tree.wrapped).steps ∧
      (outer tree).RendersAs (outer tree.wrapped) := by
  intro tree outer
  have steps : Interchanged tree tree.wrapped (outer tree).steps (outer tree.wrapped).steps :=
    (Interchanged.leaf ⟨.subQuery, none, none⟩).around
      [.start .deleteFrom, .leaf (.name "t"), .close, .start .whereClause, .start .phrase,
        .leaf (.name "EXISTS")]
      [.close, .close]
  exact ⟨steps, (transparent.2 (.tree tree)).token _ _ steps⟩

end ClauseTree
