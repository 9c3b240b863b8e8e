import ClauseTree.Proofs.HeldStatements
import ClauseTree.Proofs.Surroundings

/-!
# Embedded statements

A statement that stands in another one goes on with its numbering.  Its parameters are a
block of those of the outer statement, behind the constants that are bound before it, and
its text stands there with every position moved on by the number of these constants.

A site is framed: the trees that can stand there are written between the same two
templates.  This goes up from the place through the tokens and nodes around it, one layer
after the other.
-/

namespace ClauseTree

open Template (bound between ofText)

/-! ### What templates bind -/

private theorem tokens_writePieces (style : Placeholder) (pieces : List Piece)
    (parameters : Parameters) :
    (writePieces (.prepared style) pieces parameters).2.tokens =
      parameters.tokens ++ pieces.flatMap (·.template.bound) := by
  induction pieces generalizing parameters with
  | nil => simp [writePieces]
  | cons piece rest ih =>
      simp [writePieces, ih, Template.tokens_write]

private theorem Layout.bound_composePieces (layout : Layout) (pieces : List Piece) :
    (layout.composePieces pieces).bound = pieces.flatMap (·.template.bound) := by
  have composed := Template.tokens_write .dollar (layout.composePieces pieces) .empty
  rw [layout.write_composePieces, tokens_writePieces] at composed
  exact composed.symm

private theorem tokens_writeTemplates (style : Placeholder) (templates : List Template)
    (parameters : Parameters) :
    (writeTemplates (.prepared style) templates parameters).2.tokens =
      parameters.tokens ++ templates.flatMap bound := by
  induction templates generalizing parameters with
  | nil => simp [writeTemplates]
  | cons template rest ih =>
      simp [writeTemplates, ih, Template.tokens_write]

private theorem bound_childPieces (children : List Child) :
    (childPieces children).flatMap (·.template.bound) =
      (childrenTraversal children).filter Token.isPrepared := by
  have pieces := tokens_writePieces .dollar (childPieces children) .empty
  rw [writePieces_childPieces, tokens_writeChildren] at pieces
  exact pieces.symm

private theorem bound_tokenTemplates (tokens : List Token) :
    (tokenTemplates tokens).flatMap bound =
      (tokensTraversal tokens).filter Token.isPrepared := by
  have templates := tokens_writeTemplates .dollar (tokenTemplates tokens) .empty
  rw [writeTemplates_tokenTemplates, tokens_writeTokens] at templates
  exact templates.symm

private theorem bound_rowTemplates (rows : List (List Token)) :
    (rowTemplates rows).flatMap bound = (rowsTraversal rows).filter Token.isPrepared := by
  have templates := tokens_writeTemplates .dollar (rowTemplates rows) .empty
  rw [writeTemplates_rowTemplates, tokens_writeRows] at templates
  exact templates.symm

private theorem Tree.bound_pieces (tree : Tree) :
    tree.pieces.flatMap (·.template.bound) = tree.traversal.filter Token.isPrepared := by
  have pieces := tokens_writePieces .dollar tree.pieces .empty
  rw [tree.writePieces_pieces, Tree.tokens_write] at pieces
  exact pieces.symm

/-! ### Frames -/

/-- A tree that leaves a trace is always written between the same two templates, which bind
the prepared constants among these tokens. -/
def Frames (before after : List Token) (write : Tree → Template) : Prop :=
  Surrounds (before.filter Token.isPrepared) (after.filter Token.isPrepared) Tree.template write

namespace Frames

variable {before after : List Token} {write : Tree → Template}

/-- A tree by itself stands in an empty frame. -/
theorem place : Frames [] [] Tree.template :=
  ⟨[], [], rfl, rfl, fun tree _ => (List.append_nil tree.template).symm⟩

private theorem of_eq {other : Tree → Template} (frames : Frames before after write)
    (same : ∀ tree, other tree = write tree) : Frames before after other := by
  rwa [funext same]

/-- A layer of writing around a framed tree, with more tokens before and behind. -/
theorem within (frames : Frames before after write) (more others : List Token)
    {around : Template → Template}
    (layer : Layer (more.filter Token.isPrepared) (others.filter Token.isPrepared) around) :
    Frames (more ++ before) (after ++ others) fun tree => around (write tree) := by
  have surrounds := Surrounds.within frames layer
  rwa [← List.filter_append, ← List.filter_append] at surrounds

/-- Trimming a frame drops blanks at its ends and nothing of the tree. -/
theorem trim (frames : Frames before after write) :
    Frames before after fun tree => (write tree).trim := by
  obtain ⟨front, back, frontBound, backBound, framed⟩ := frames
  refine ⟨front.dropWhile Template.isBlankCell, back.rdropWhile Template.isBlankCell, ?_, ?_, ?_⟩
  · rw [Template.bound_dropWhile, frontBound]
  · rw [Template.bound_rdropWhile, backBound]
  · intro tree trace
    have solid : tree.template.Solid := Template.solid_trim trace
    exact (congrArg Template.trim (framed tree trace)).trans (solid.trim_around front back)

/-- Parentheses around a framed tree are part of its frame. -/
theorem enclosed (frames : Frames before after write) (opening closing : String) :
    Frames before after fun tree => between opening (write tree) closing := by
  have layer := frames.within [] [] (layer_between opening closing)
  rwa [List.append_nil] at layer

section

variable {more others : List Token}

/-- A tree in a list stands between the other items. -/
theorem listed (frames : Frames before after write) {earlier later : List Template}
    (earlierBound : earlier.flatMap bound = more.filter Token.isPrepared)
    (laterBound : later.flatMap bound = others.filter Token.isPrepared) :
    Frames (more ++ before) (after ++ others) fun tree =>
      Template.commaSeparated (earlier ++ write tree :: later) := by
  have layer := layer_commaSeparated earlier later
  rw [earlierBound, laterBound] at layer
  exact frames.within more others layer

/-- A tree in a node stands between the siblings. -/
theorem composed (frames : Frames before after write) (layout : Layout) (glue : Glue)
    {earlier later : List Piece}
    (earlierBound : earlier.flatMap (·.template.bound) = more.filter Token.isPrepared)
    (laterBound : later.flatMap (·.template.bound) = others.filter Token.isPrepared) :
    Frames (more ++ before) (after ++ others) fun tree =>
      layout.composePieces (earlier ++ ⟨glue, write tree⟩ :: later) := by
  have layer := layer_composePieces layout earlier later glue
  rw [earlierBound, laterBound] at layer
  exact frames.within more others layer

end

end Frames

/-! ### Every site frames what stands there -/

/-- Whether the token at or around the place is a list does not depend on the tree there. -/
def KindSite.isList : KindSite → Bool
  | .list _ _ _ => true
  | _ => false

/-- Whether a token is a list does not depend on the tree in it. -/
theorem KindSite.isList_fill (tree : Tree) (site : KindSite) :
    (site.fill tree).isList = site.isList := by
  cases site <;> rfl

/-- A place in a token is a place in its kind; cast and alias stand around it. -/
theorem TokenSite.kind_fill (tree : Tree) (site : TokenSite) :
    (site.fill tree).kind = site.kind.fill tree := by
  cases site
  rfl

def ChildSite.glue : ChildSite → Glue
  | .leaf _ => .separator
  | .node kind _ _ _ => kind.layout.glue

private theorem ChildSite.piece_fill (tree : Tree) (site : ChildSite) :
    (site.fill tree).piece = ⟨site.glue, (site.fill tree).piece.template⟩ := by
  cases site <;> rfl

private theorem childPieces_filled (tree : Tree) (before : List Child) (site : ChildSite)
    (after : List Child) :
    childPieces (before ++ site.fill tree :: after) =
      childPieces before ++
        ⟨site.glue, (site.fill tree).piece.template⟩ :: childPieces after := by
  rw [childPieces_append, childPieces, ← site.piece_fill tree]

/-- The list around a place has the templates of its other tokens on both sides. -/
theorem tokenTemplates_filled (tree : Tree) (before : List Token) (site : TokenSite)
    (after : List Token) :
    tokenTemplates (before ++ site.fill tree :: after) =
      tokenTemplates before ++ (site.fill tree).template :: tokenTemplates after := by
  rw [tokenTemplates_append, tokenTemplates]

mutual

/-- The tokens before and behind a place are what its frame binds. -/
theorem TokenSite.frames : ∀ site : TokenSite,
    Frames site.before site.after fun tree => (site.fill tree).template
  | ⟨kind, castType, outputName⟩ =>
      (kind.frames castType outputName).enclosed "" (suffix castType outputName)

private theorem KindSite.frames (castType : Option String) (outputName : Option Alias) :
    ∀ site : KindSite,
      Frames site.before site.after fun tree => (site.fill tree).template castType outputName
  | .subQuery => Frames.place.enclosed "(" ")"
  | .statement => Frames.place
  | .array before site after => by
      have items := site.frames.listed (bound_tokenTemplates before) (bound_tokenTemplates after)
      refine (items.enclosed "ARRAY[" "]").of_eq fun tree => ?_
      rw [KindSite.fill, TokenKind.template, tokenTemplates_filled]
  | .list before site after => by
      have items := site.frames.listed (bound_tokenTemplates before) (bound_tokenTemplates after)
      refine (items.enclosed "(" ")").of_eq fun tree => ?_
      rw [KindSite.fill, TokenKind.template, tokenTemplates_filled]
  -- A list brings its own parentheses, and filling a place below does not make one or unmake it.
  | .call name site => by
      by_cases isList : site.kind.isList = true
      · refine (site.frames.enclosed name "").of_eq fun tree => ?_
        rw [KindSite.fill, TokenKind.template, TokenSite.kind_fill, KindSite.isList_fill,
          if_pos isList]
        exact (List.append_nil _).symm
      · refine (site.frames.enclosed (name ++ "(") ")").of_eq fun tree => ?_
        rw [KindSite.fill, TokenKind.template, TokenSite.kind_fill, KindSite.isList_fill,
          if_neg isList]
  | .applied symbol site => by
      refine (site.frames.enclosed symbol "").of_eq fun tree => ?_
      exact (List.append_nil _).symm
  | .inSubQuery site => site.frames.enclosed "(" ")"
  | .inStatement site => site.frames
  | .values rowsBefore before site after rowsAfter => by
      have items := site.frames.listed (bound_tokenTemplates before) (bound_tokenTemplates after)
      have rows := (items.enclosed "(" ")").listed (bound_rowTemplates rowsBefore)
        (bound_rowTemplates rowsAfter)
      refine (rows.enclosed "(VALUES" ")").of_eq fun tree => ?_
      rw [KindSite.fill, TokenKind.template, rowTemplates_append, rowTemplates,
        tokenTemplates_filled]

private theorem ChildSite.frames : ∀ site : ChildSite,
    Frames site.before site.after fun tree => (site.fill tree).piece.template
  | .leaf site => site.frames
  | .node kind before site after => by
      have node := site.frames.composed kind.layout site.glue (bound_childPieces before)
        (bound_childPieces after)
      refine node.of_eq fun tree => ?_
      rw [ChildSite.fill, Child.piece, childPieces_filled]

/-- The pieces under the root, in whatever node they are put together. -/
theorem TreeSite.frames_pieces : ∀ (site : TreeSite) (layout : Layout),
    Frames site.before site.after fun tree => layout.composePieces (site.fill tree).pieces
  | .here before site after, layout => by
      have root := site.frames.composed layout site.glue (bound_childPieces before)
        (bound_childPieces after)
      refine root.of_eq fun tree => ?_
      rw [TreeSite.fill, Tree.pieces, childPieces_filled]
  | .finished before site after kind rest, layout => by
      let openNode : Piece := ⟨kind.layout.glue, kind.layout.composePieces rest.pieces⟩
      have laterBound : (childPieces after ++ [openNode]).flatMap (·.template.bound) =
          (childrenTraversal after ++ rest.traversal).filter Token.isPrepared := by
        rw [List.flatMap_append, bound_childPieces, List.flatMap_singleton,
          kind.layout.bound_composePieces, rest.bound_pieces, List.filter_append]
      have root := site.frames.composed layout site.glue (bound_childPieces before) laterBound
      rw [← List.append_assoc] at root
      refine root.of_eq fun tree => ?_
      rw [TreeSite.fill, Tree.pieces, childPieces_filled, List.append_assoc, List.cons_append]
  | .inside before kind site, layout => by
      have root := (site.frames_pieces kind.layout).composed layout kind.layout.glue
        (bound_childPieces before) (bound_childPieces [])
      rw [childrenTraversal, List.append_nil] at root
      exact root

/-- A tree in another one stands in a frame that binds what the traversal meets before it
and behind it. -/
theorem TreeSite.frames : ∀ site : TreeSite,
    Frames site.before site.after fun tree => (site.fill tree).template
  | site => (site.frames_pieces NodeKind.root.layout).trim

end

/-! ### A statement inside of another one -/

namespace Template

/-- A template can be divided between any two of the constants that it binds. -/
theorem exists_divided : ∀ (template : Template) {before after : List Token},
    template.bound = before ++ after →
      ∃ front back : Template,
        template = front ++ back ∧ front.bound = before ∧ back.bound = after
  | [], before, after, binds => by
      obtain ⟨rfl, rfl⟩ := List.append_eq_nil_iff.mp binds.symm
      exact ⟨[], [], rfl, rfl, rfl⟩
  | .char c :: rest, before, after, binds => by
      obtain ⟨front, back, rfl, frontBound, backBound⟩ := exists_divided rest binds
      exact ⟨.char c :: front, back, rfl, frontBound, backBound⟩
  | .hole binding :: rest, [], after, binds => ⟨[], .hole binding :: rest, rfl, rfl, binds⟩
  | .hole binding :: rest, token :: before, after, binds => by
      rw [bound_hole_cons, List.cons_append, List.cons.injEq] at binds
      obtain ⟨front, back, rfl, rfl, backBound⟩ := exists_divided rest binds.2
      exact ⟨.hole binding :: front, back, rfl, by rw [bound_hole_cons, binds.1], backBound⟩

end Template

namespace Tree

/-- Prepared text is the template with its holes filled by placeholders, and the parameters
are what it binds. -/
theorem prepared_eq_fill (style : Placeholder) (tree : Tree) :
    tree.prepared style = ⟨tree.template.fill style.text, ⟨tree.template.bound⟩⟩ := by
  rw [prepared, render_eq_write_template, Template.write_prepared]
  rfl

/-- A template binds the prepared constants of the traversal. -/
theorem bound_template (tree : Tree) :
    tree.template.bound = tree.traversal.filter Token.isPrepared := by
  rw [← tree.tokens_prepared .dollar, prepared_eq_fill]

/-- What stands around a tree that another one holds. -/
theorem exists_around {outer tree : Tree} {holder : Token} {met later : List Token}
    (occurs : outer.traversal = met ++ holder :: later) (holds : holder.Holds tree) :
    ∃ (site : TreeSite) (front back : Template),
      site.fill tree = outer ∧ site.index = met.length ∧
      front.bound = met.filter Token.isPrepared ∧
      outer.template = front ++ tree.template ++ back ∧
      (tree.template ≠ [] → ∀ other : Tree, other.template ≠ [] →
        (site.fill other).template = front ++ other.template ++ back) := by
  obtain ⟨site, filled, index, before⟩ := Tree.exists_site holds outer occurs
  by_cases trace : tree.template = []
  · -- Nothing stands at the place, and any spot with the right constants before it will do.
    have binds : outer.template.bound =
        met.filter Token.isPrepared ++ (holder :: later).filter Token.isPrepared := by
      rw [outer.bound_template, occurs, List.filter_append]
    obtain ⟨front, back, divided, frontBound, _⟩ := outer.template.exists_divided binds
    refine ⟨site, front, back, filled, index, frontBound, ?_, fun visible => absurd trace visible⟩
    rw [trace, List.append_nil, divided]
  · obtain ⟨front, back, frontBound, _, framed⟩ := site.frames
    refine ⟨site, front, back, filled, index, frontBound.trans before, ?_, fun _ => framed⟩
    rw [← filled]
    exact framed tree trace

end Tree

/-- How a statement stands at a site of another one, when these tokens are met before the
token that holds it. -/
structure Statement.StandsIn (inner outer : Statement) (met : List Token) (site : TreeSite)
    (front back : Template) : Prop where
  place : site.fill inner.toTree = outer.toTree
  /-- Whatever tree is put at the site is held by the token behind as many others. -/
  meets : ∀ tree : Tree, MeetsAt tree met.length (site.fill tree).traversal
  /-- What is written in front of it binds the constants that are met before it. -/
  binds : front.bound = met.filter Token.isPrepared
  /-- These are bound first, its own constants come next and are one block. -/
  block : ∀ style : Placeholder, (outer.prepared style).parameters.tokens =
    met.filter Token.isPrepared ++ (inner.prepared style).parameters.tokens ++ back.bound
  positions : ∀ (style : Placeholder) (k : Nat), 1 ≤ k →
    k ≤ (inner.prepared style).parameters.size →
      (outer.prepared style).parameters.get? ((met.filter Token.isPrepared).length + k) =
        (inner.prepared style).parameters.get? k
  /-- Its own text has the placeholders of its own positions in the holes. -/
  alone : (inner.prepared .dollar).sql = inner.toTree.template.fill Placeholder.dollar.text
  /-- Inside of the other text they are moved on. -/
  text : (outer.prepared .dollar).sql =
    front.fill Placeholder.dollar.text ++
      inner.toTree.template.fill
        (fun k => Placeholder.dollar.text ((met.filter Token.isPrepared).length + k)) ++
      back.fillFrom Placeholder.dollar.text
        ((met.filter Token.isPrepared).length + (inner.prepared .dollar).parameters.size + 1)
  /-- Any other tree that leaves a trace would stand at the site between the same. -/
  alike : inner.toTree.template ≠ [] → ∀ other : Tree, other.template ≠ [] →
    (site.fill other).template = front ++ other.template ++ back

namespace Statement

private theorem exists_standsIn {outer inner : Statement} {holder : Token} {met later : List Token}
    (occurs : outer.toTree.traversal = met ++ holder :: later) (holds : holder.Holds inner.toTree) :
    ∃ (site : TreeSite) (front back : Template),
      inner.StandsIn outer met site front back := by
  obtain ⟨site, front, back, place, index, frontBound, around, alike⟩ :=
    Tree.exists_around occurs holds
  have block (style : Placeholder) : (outer.prepared style).parameters.tokens =
      met.filter Token.isPrepared ++ (inner.prepared style).parameters.tokens ++ back.bound := by
    rw [Statement.prepared, Statement.prepared, Tree.prepared_eq_fill, Tree.prepared_eq_fill,
      around, Template.bound_append, Template.bound_append, frontBound]
  refine ⟨site, front, back,
    ⟨place, ?meets, frontBound, block, ?positions, ?alone, ?text, alike⟩⟩
  case meets =>
    intro tree
    rw [← index]
    exact site.meetsAt tree
  case positions =>
    intro style k positive bounded
    obtain ⟨index, rfl⟩ := Nat.exists_eq_add_of_le' positive
    rw [← Nat.add_assoc, Parameters.get?, Parameters.get?, block, List.append_assoc,
      List.getElem?_append_right (Nat.le_add_right _ _), Nat.add_sub_cancel_left,
      List.getElem?_append_left bounded]
  case alone => rw [Statement.prepared, Tree.prepared_eq_fill]
  case text =>
    have size : (inner.prepared .dollar).parameters.size = inner.toTree.template.bound.length := by
      rw [Statement.prepared, Tree.prepared_eq_fill]
      rfl
    have shift : inner.toTree.template.fillFrom Placeholder.dollar.text
          (1 + (met.filter Token.isPrepared).length) =
        inner.toTree.template.fill fun k =>
          Placeholder.dollar.text ((met.filter Token.isPrepared).length + k) := by
      rw [Nat.add_comm, Template.fillFrom_add]
      rfl
    have behind : 1 + (met.filter Token.isPrepared ++ inner.toTree.template.bound).length =
        (met.filter Token.isPrepared).length + inner.toTree.template.bound.length + 1 := by
      rw [List.length_append, Nat.add_comm]
    rw [Statement.prepared, Tree.prepared_eq_fill, around, Template.fill,
      Template.fillFrom_append, Template.fillFrom_append, Template.bound_append, frontBound,
      shift, behind, size]
    rfl

/-- A statement continues the numbering of the one that it stands in.  Every way of taking a
statement in puts it at a place in the tree, and at every place, whatever the tokens and nodes
around it, its parameters are one block behind those bound before it, and its numbered text
is there with the numbers moved on by these. -/
theorem prepared_embedded (outer inner : Statement) :
    (outer.TakesIn inner.toTree → ∃ (met : List Token) (holder : Token) (later : List Token),
      outer.toTree.traversal = met ++ holder :: later ∧ holder.Holds inner.toTree) ∧
    ∀ (met : List Token) (holder : Token) (later : List Token),
      outer.toTree.traversal = met ++ holder :: later → holder.Holds inner.toTree →
        ∃ (site : TreeSite) (front back : Template),
          inner.StandsIn outer met site front back :=
  ⟨TakesIn.occurs, fun _ _ _ occurs holds => exists_standsIn occurs holds⟩

/-- The query of an `IN`, behind an assignment that binds one constant. -/
theorem prepared_embedded_update :
    let recent : Statement := .select
      (((Select.ofColumns [.name "author_id"]).addSources [.ofToken (.name "book")]).pushWhere
        (.comparison (.name "published") (.name ">") (.string "2020-01-01")))
    let change : Update :=
      (((Update.ofTable (.name "author")).set (.name "active") (.constant (.bool true))).pushWhere
        .and (.comparison (.name "id") (.name "IN") (.subQuery recent.toTree))).pushWhere
        .and (.comparison (.name "country") (.name "=") (.string "NZ"))
    let met : List Token :=
      [.name "author", .name "active", .name "=", .constant (.bool true), .name "id", .name "IN"]
    (Statement.update change).TakesIn recent.toTree ∧
      (∃ met holder later, (Statement.update change).toTree.traversal = met ++ holder :: later ∧
        holder.Holds recent.toTree) ∧
      (∃ later, (Statement.update change).toTree.traversal =
        met ++ .subQuery recent.toTree :: later) ∧
      (∃ site front back, recent.StandsIn (.update change) met site front back) ∧
      (recent.prepared .dollar).sql = "SELECT author_id FROM book WHERE published > $1" ∧
      ((Statement.update change).prepared .dollar).sql =
        "UPDATE author SET active = $1 WHERE id IN " ++
          "(SELECT author_id FROM book WHERE published > $2) AND country = $3" ∧
      ((Statement.update change).prepared .dollar).parameters.get? 2 =
        some (.string "2020-01-01") := by
  intro recent change met
  have among : Token.subQuery recent.toTree ∈ change.filter.tokens :=
    List.mem_cons_of_mem _ (List.mem_cons_of_mem _ List.mem_cons_self)
  have takes : (Statement.update change).TakesIn recent.toTree :=
    .predicate List.mem_cons_self among (Token.mem_traversal_self _) (.inl rfl)
  obtain ⟨occurs, stands⟩ := prepared_embedded (.update change) recent
  have here : (Statement.update change).toTree.traversal =
      met ++ .subQuery recent.toTree ::
        [.name "author_id", .name "book", .name "published", .name ">", .string "2020-01-01",
          .name "country", .name "=", .string "NZ"] := rfl
  obtain ⟨site, front, back, embedded⟩ := stands met _ _ here (.inl rfl)
  have moved := embedded.positions .dollar 1 (Nat.le_refl 1) (Nat.le_refl 1)
  refine ⟨takes, occurs takes, ⟨_, here⟩, ⟨site, front, back, embedded⟩, ?_, ?_, moved⟩
  · decide +kernel
  · decide +kernel

end Statement

end ClauseTree
