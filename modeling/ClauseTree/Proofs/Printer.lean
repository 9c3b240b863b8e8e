import ClauseTree.Proofs.Traversal

/-!
# Printing without a tree

A printer writes text and binds parameters as it goes.  Printers are put together by a
few combinators, which say outright what stands between the parts, which keyword stands
before them and where there are parentheses.  No node of a clause tree and no layout
comes into it.

`Prints` relates printers to children of a tree: run from the same parameters, both
write the same texts, empty ones aside, and bind the same tokens.  It goes through
every combinator, so that a clause is compared with its printer part by part.

What prints the trees that tokens hold is left open.  It only has to write them as the
walk does, and only those that stand directly in the children in question.
-/

namespace ClauseTree

/-! ### Combinators -/

namespace Printer

/-- The texts that leave a trace. -/
def written (texts : List String) : List String :=
  texts.filter fun text => !text.isEmpty

/-- Texts one after the other; an empty one leaves no trace. -/
def joined (separator : String) (texts : List String) : String :=
  separator.intercalate (written texts)

/-- A text behind a keyword, or the keyword by itself. -/
def behind (keyword text : String) : String :=
  if text.isEmpty then keyword else keyword ++ " " ++ text

/-- Print one part after the other. -/
def inOrder : List (Writing String) → Writing (List String)
  | [] => pure []
  | part :: rest => do
      let text ← part
      let texts ← inOrder rest
      pure (text :: texts)

/-- Parts with blanks between them. -/
def phrase (parts : List (Writing String)) : Writing String := do
  let texts ← inOrder parts
  pure (joined " " texts)

/-- Parts with commas between them. -/
def items (parts : List (Writing String)) : Writing String := do
  let texts ← inOrder parts
  pure (joined ", " texts)

/-- A keyword, then parts with blanks between them. -/
def spaced (keyword : String) (parts : List (Writing String)) : Writing String := do
  let text ← phrase parts
  pure (behind keyword text)

/-- A keyword, then parts with commas between them. -/
def listed (keyword : String) (parts : List (Writing String)) : Writing String := do
  let text ← items parts
  pure (behind keyword text)

/-- A keyword, then a list in parentheses, even if nothing stands in it. -/
def parenthesised (keyword : String) (parts : List (Writing String)) : Writing String := do
  let text ← items parts
  pure (behind keyword ("(" ++ text ++ ")"))

/-- Parts with blanks between them, in parentheses when more than one is written. -/
def grouped (parts : List (Writing String)) : Writing String := do
  let texts ← inOrder parts
  let text := joined " " texts
  pure (if 1 < (written texts).length then "(" ++ text ++ ")" else text)

/-- The clauses of a statement.  Its text is trimmed. -/
def clauses (parts : List (Writing String)) : Writing String := do
  let text ← phrase parts
  pure (Text.trim text)

/-- A clause that is left out when it has no elements. -/
def unlessEmpty {α : Type} (elements : List α) (clause : Writing String) : Writing String :=
  if elements.isEmpty then pure "" else clause

end Printer

/-! ### Tokens -/

mutual

/-- Print a token; `embedded` prints the trees that it holds. -/
def Token.print (mode : Mode) (embedded : Tree → Writing String) : Token → Writing String
  | ⟨kind, castType, outputName⟩ => do
      let text ← kind.print mode embedded ⟨kind, castType, outputName⟩
      pure (text ++ suffix castType outputName)

def TokenKind.print (mode : Mode) (embedded : Tree → Writing String) (whole : Token) :
    TokenKind → Writing String
  | .name text => pure text
  | .quotedName text => pure (Identifier.quoted text)
  | .constant value prepared =>
      match mode, prepared with
      | .prepared style, true => bindToken style whole
      | _, _ => pure value.sql
  | .dollarString body tag => pure (Text.dollarQuoted body tag)
  | .array elements => do
      let texts ← printTokens mode embedded elements
      pure ("ARRAY[" ++ commaSeparated texts ++ "]")
  | .list elements => do
      let texts ← printTokens mode embedded elements
      pure ("(" ++ commaSeparated texts ++ ")")
  | .call function argument => do
      let text ← argument.print mode embedded
      pure (if argument.kind.isList then function ++ text else function ++ "(" ++ text ++ ")")
  | .emptyCall function => pure (function ++ "()")
  | .operator symbol => pure symbol
  | .applied symbol operand => do
      let text ← operand.print mode embedded
      pure (symbol ++ text)
  | .subQuery tree => do
      let text ← embedded tree
      pure ("(" ++ text ++ ")")
  | .statement tree => embedded tree
  | .values rows => do
      let texts ← printRows mode embedded rows
      pure ("(VALUES" ++ commaSeparated texts ++ ")")

def printTokens (mode : Mode) (embedded : Tree → Writing String) :
    List Token → Writing (List String)
  | [] => pure []
  | token :: rest => do
      let text ← token.print mode embedded
      let texts ← printTokens mode embedded rest
      pure (text :: texts)

def printRows (mode : Mode) (embedded : Tree → Writing String) :
    List (List Token) → Writing (List String)
  | [] => pure []
  | row :: rest => do
      let elements ← printTokens mode embedded row
      let texts ← printRows mode embedded rest
      pure (("(" ++ commaSeparated elements ++ ")") :: texts)

end

/-! ### Embedded trees -/

mutual

/-- The trees that a token holds, those inside of them left out. -/
def Token.trees : Token → List Tree
  | ⟨kind, _, _⟩ => kind.trees

def TokenKind.trees : TokenKind → List Tree
  | .name _ => []
  | .quotedName _ => []
  | .constant _ _ => []
  | .dollarString _ _ => []
  | .array elements => tokensTrees elements
  | .list elements => tokensTrees elements
  | .call _ argument => argument.trees
  | .emptyCall _ => []
  | .operator _ => []
  | .applied _ operand => operand.trees
  | .subQuery tree => [tree]
  | .statement tree => [tree]
  | .values rows => rowsTrees rows

def tokensTrees : List Token → List Tree
  | [] => []
  | token :: rest => token.trees ++ tokensTrees rest

def rowsTrees : List (List Token) → List Tree
  | [] => []
  | row :: rest => tokensTrees row ++ rowsTrees rest

end

mutual

/-- The trees that the leaves below a child hold. -/
def Child.trees : Child → List Tree
  | .leaf token => token.trees
  | .node _ children => childrenTrees children

def childrenTrees : List Child → List Tree
  | [] => []
  | child :: rest => child.trees ++ childrenTrees rest

end

private theorem childrenTrees_append (first second : List Child) :
    childrenTrees (first ++ second) = childrenTrees first ++ childrenTrees second := by
  induction first with
  | nil => rfl
  | cons child rest ih =>
      rw [List.cons_append, childrenTrees, childrenTrees, ih, List.append_assoc]

/-! A tree that stands in a token holds fewer tokens: the one around it is missing. -/

mutual

/-- A tree embedded in a token has fewer tokens than the token's own traversal, so that
printing may recurse into it. -/
theorem Token.length_traversal_lt {tree : Tree} :
    ∀ (token : Token), tree ∈ token.trees →
      tree.traversal.length < token.traversal.length
  | ⟨kind, _, _⟩, member =>
      Nat.lt_succ_of_le (TokenKind.length_traversal_le kind member)

private theorem TokenKind.length_traversal_le {tree : Tree} :
    ∀ (kind : TokenKind), tree ∈ kind.trees →
      tree.traversal.length ≤ kind.traversal.length
  | .array elements, member => Nat.le_of_lt (length_tokensTraversal_lt elements member)
  | .list elements, member => Nat.le_of_lt (length_tokensTraversal_lt elements member)
  | .call _ argument, member => Nat.le_of_lt (argument.length_traversal_lt member)
  | .applied _ operand, member => Nat.le_of_lt (operand.length_traversal_lt member)
  | .subQuery inner, member => by
      cases List.mem_singleton.mp member
      exact Nat.le_refl _
  | .statement inner, member => by
      cases List.mem_singleton.mp member
      exact Nat.le_refl _
  | .values rows, member => Nat.le_of_lt (length_rowsTraversal_lt rows member)

private theorem length_tokensTraversal_lt {tree : Tree} :
    ∀ (tokens : List Token), tree ∈ tokensTrees tokens →
      tree.traversal.length < (tokensTraversal tokens).length
  | token :: rest, member => by
      rw [tokensTraversal, List.length_append]
      rcases List.mem_append.mp member with first | later
      · exact Nat.lt_add_right _ (token.length_traversal_lt first)
      · exact Nat.lt_add_left _ (length_tokensTraversal_lt rest later)

private theorem length_rowsTraversal_lt {tree : Tree} :
    ∀ (rows : List (List Token)), tree ∈ rowsTrees rows →
      tree.traversal.length < (rowsTraversal rows).length
  | row :: rest, member => by
      rw [rowsTraversal, List.length_append]
      rcases List.mem_append.mp member with first | later
      · exact Nat.lt_add_right _ (length_tokensTraversal_lt row first)
      · exact Nat.lt_add_left _ (length_rowsTraversal_lt rest later)

end

mutual

private theorem Child.length_traversal_lt {tree : Tree} :
    ∀ (child : Child), tree ∈ child.trees →
      tree.traversal.length < child.traversal.length
  | .leaf token, member => token.length_traversal_lt member
  | .node _ children, member => length_childrenTraversal_lt children member

/-- The same for the trees below a list of children. -/
theorem length_childrenTraversal_lt {tree : Tree} :
    ∀ (children : List Child), tree ∈ childrenTrees children →
      tree.traversal.length < (childrenTraversal children).length
  | child :: rest, member => by
      rw [childrenTraversal, List.length_append]
      rcases List.mem_append.mp member with first | later
      · exact Nat.lt_add_right _ (child.length_traversal_lt first)
      · exact Nat.lt_add_left _ (length_childrenTraversal_lt rest later)

end

/-- The text of a tree by the walk, from the parameters bound before. -/
def Tree.walk (mode : Mode) (tree : Tree) : Writing String := do
  let fragments ← tree.write mode
  pure (treeText fragments)

/-! ### Tokens by the walk -/

mutual

/-- A printer that agrees with the walk on the embedded trees agrees with it on the
token. -/
theorem Token.print_eq_write {mode : Mode} {embedded : Tree → Writing String} :
    ∀ (token : Token), (∀ tree ∈ token.trees, embedded tree = tree.walk mode) →
      token.print mode embedded = token.write mode
  | ⟨kind, castType, outputName⟩, agree => by
      have inner := TokenKind.print_eq_write kind ⟨kind, castType, outputName⟩ agree
      rw [Token.print, Token.write, inner]

private theorem TokenKind.print_eq_write {mode : Mode} {embedded : Tree → Writing String} :
    ∀ (kind : TokenKind) (whole : Token), (∀ tree ∈ kind.trees, embedded tree = tree.walk mode) →
      kind.print mode embedded whole = kind.write mode whole
  | .name _, _, _ => rfl
  | .quotedName _, _, _ => rfl
  | .constant value prepared, _, _ => by
      cases mode with
      | literal => rfl
      | prepared style => cases prepared <;> rfl
  | .dollarString _ _, _, _ => rfl
  | .array elements, _, agree => by
      rw [TokenKind.print, TokenKind.write, printTokens_eq_writeTokens elements agree]
  | .list elements, _, agree => by
      rw [TokenKind.print, TokenKind.write, printTokens_eq_writeTokens elements agree]
  | .call _ argument, _, agree => by
      rw [TokenKind.print, TokenKind.write, argument.print_eq_write agree]
  | .emptyCall _, _, _ => rfl
  | .operator _, _, _ => rfl
  | .applied _ operand, _, agree => by
      rw [TokenKind.print, TokenKind.write, operand.print_eq_write agree]
  | .subQuery tree, _, agree => by
      rw [TokenKind.print, agree tree List.mem_cons_self]
      rfl
  | .statement tree, _, agree => by
      rw [TokenKind.print, agree tree List.mem_cons_self]
      rfl
  | .values rows, _, agree => by
      rw [TokenKind.print, TokenKind.write, printRows_eq_writeRows rows agree]

private theorem printTokens_eq_writeTokens {mode : Mode} {embedded : Tree → Writing String} :
    ∀ (tokens : List Token), (∀ tree ∈ tokensTrees tokens, embedded tree = tree.walk mode) →
      printTokens mode embedded tokens = writeTokens mode tokens
  | [], _ => rfl
  | token :: rest, agree => by
      have first := token.print_eq_write fun tree member =>
        agree tree (List.mem_append_left _ member)
      have others := printTokens_eq_writeTokens rest fun tree member =>
        agree tree (List.mem_append_right _ member)
      rw [printTokens, writeTokens, first, others]

private theorem printRows_eq_writeRows {mode : Mode} {embedded : Tree → Writing String} :
    ∀ (rows : List (List Token)), (∀ tree ∈ rowsTrees rows, embedded tree = tree.walk mode) →
      printRows mode embedded rows = writeRows mode rows
  | [], _ => rfl
  | row :: rest, agree => by
      have first := printTokens_eq_writeTokens row fun tree member =>
        agree tree (List.mem_append_left _ member)
      have others := printRows_eq_writeRows rest fun tree member =>
        agree tree (List.mem_append_right _ member)
      rw [printRows, writeRows, first, others]

end

/-! ### Printers of children -/

open Printer

/-- How a child is joined to the sibling before it. -/
def Child.glue : Child → Glue
  | .leaf _ => .separator
  | .node kind _ => kind.layout.glue

private theorem Child.glue_write (mode : Mode) (child : Child) (parameters : Parameters) :
    (child.write mode parameters).1.glue = child.glue := by
  cases child <;> rfl

/-- Printers write what the children write, empty texts aside, and bind the same. -/
def Prints (mode : Mode) (embedded : Tree → Writing String) (children : List Child)
    (parts : List (Writing String)) : Prop :=
  (∀ tree ∈ childrenTrees children, embedded tree = tree.walk mode) →
  ∀ parameters,
    written ((writeChildren mode children parameters).1.map Fragment.text) =
      written (inOrder parts parameters).1 ∧
    (writeChildren mode children parameters).2 = (inOrder parts parameters).2

namespace Layout

/-- Fragments that all keep to the separator are joined by it. -/
theorem joinWritten_eq_intercalate (layout : Layout) :
    ∀ (fragments : List Fragment),
      (∀ fragment ∈ fragments, layout.before fragment.glue = layout.separator) →
      layout.joinWritten fragments = layout.separator.intercalate (fragments.map Fragment.text)
  | [], _ => rfl
  | [fragment], _ => by simp [joinWritten, joinRest]
  | first :: next :: rest, kept => by
      have others := joinWritten_eq_intercalate layout (next :: rest) fun fragment member =>
        kept fragment (List.mem_cons_of_mem _ member)
      have between := kept next (List.mem_cons_of_mem _ List.mem_cons_self)
      rw [List.map_cons, List.map_cons, String.intercalate_cons_cons, ← List.map_cons,
        ← others, joinWritten, joinRest, joinWritten, between]
      simp only [String.append_assoc]

/-- The text of a node from the texts under it, when all keep to the separator. -/
theorem compose_eq (layout : Layout) {fragments : List Fragment}
    (kept : ∀ fragment ∈ fragments, layout.before fragment.glue = layout.separator) :
    layout.compose fragments =
      layout.headed
        (if layout.wraps (written (fragments.map Fragment.text)).length then
          "(" ++ joined layout.separator (fragments.map Fragment.text) ++ ")"
        else joined layout.separator (fragments.map Fragment.text)) := by
  have texts : (fragments.filter fun fragment => !fragment.text.isEmpty).map Fragment.text =
      written (fragments.map Fragment.text) := by
    rw [written, List.filter_map]
    rfl
  have body := layout.joinWritten_eq_intercalate
    (fragments.filter fun fragment => !fragment.text.isEmpty)
    fun fragment member => kept fragment (List.mem_filter.mp member).1
  rw [texts] at body
  have count := congrArg List.length texts
  rw [List.length_map] at count
  rw [compose, body, count]
  rfl

end Layout

variable {mode : Mode} {embedded : Tree → Writing String}

private theorem glue_writeChildren (children : List Child) (parameters : Parameters) :
    ∀ fragment ∈ (writeChildren mode children parameters).1,
      ∃ child ∈ children, fragment.glue = child.glue := by
  induction children generalizing parameters with
  | nil =>
      intro fragment member
      cases member
  | cons child rest ih =>
      intro fragment member
      rcases List.mem_cons.mp member with rfl | later
      · exact ⟨child, List.mem_cons_self, child.glue_write mode parameters⟩
      · obtain ⟨other, among, same⟩ := ih (child.write mode parameters).2 fragment later
        exact ⟨other, List.mem_cons_of_mem _ among, same⟩

/-! What printing a token comes to when it has neither a cast nor an alias. -/

theorem Token.print_plain (kind : TokenKind) :
    (plain kind).print mode embedded = kind.print mode embedded (plain kind) := by
  funext parameters
  simp [plain, print, suffix]

private theorem Token.print_name (text : String) :
    (name text).print mode embedded = pure text := by
  rw [name, print_plain, TokenKind.print]

private theorem printTokens_names (texts : List String) :
    printTokens mode embedded (texts.map Token.name) = pure texts := by
  induction texts with
  | nil => rfl
  | cons text rest ih =>
      rw [List.map_cons, printTokens, ih, Token.print_name]
      rfl

/-- A list of names prints as the names in parentheses. -/
theorem Token.print_names (texts : List String) :
    (list (texts.map name)).print mode embedded = pure ("(" ++ commaSeparated texts ++ ")") := by
  rw [list, print_plain, TokenKind.print, printTokens_names]
  rfl

/-- A sub-query prints as the embedded text in parentheses. -/
theorem Token.print_subQuery (tree : Tree) :
    (subQuery tree).print mode embedded =
      (do let text ← embedded tree; pure ("(" ++ text ++ ")")) := by
  rw [subQuery, print_plain, TokenKind.print]

theorem Token.print_statement (tree : Tree) :
    (statement tree).print mode embedded = embedded tree := by
  rw [statement, print_plain, TokenKind.print]

/-- A phrase of one part is that part. -/
theorem Printer.phrase_singleton (part : Writing String) : phrase [part] = part := by
  funext parameters
  have text : joined " " [(part parameters).1] = (part parameters).1 := by
    by_cases empty : (part parameters).1 = ""
    · rw [empty]
      rfl
    · simp [joined, written, empty]
  simp [phrase, inOrder, text]

/-- Printing one list behind another: the second starts from the parameters the first
leaves. -/
theorem inOrder_append (first second : List (Writing String)) (parameters : Parameters) :
    inOrder (first ++ second) parameters =
      ((inOrder first parameters).1 ++ (inOrder second (inOrder first parameters).2).1,
        (inOrder second (inOrder first parameters).2).2) := by
  induction first generalizing parameters with
  | nil => rfl
  | cons part rest ih => simp [inOrder, ih]

namespace Prints

theorem nil : Prints mode embedded [] [] :=
  fun _ _ => ⟨rfl, rfl⟩

/-- A clause that is left out is written as the empty text. -/
theorem absent : Prints mode embedded [] [pure ""] :=
  fun _ _ => ⟨by simp [inOrder, writeChildren, written], rfl⟩

/-- Parts that print two lists of children print them one behind the other. -/
theorem append {children others : List Child} {parts more : List (Writing String)}
    (first : Prints mode embedded children parts) (second : Prints mode embedded others more) :
    Prints mode embedded (children ++ others) (parts ++ more) := by
  intro agree parameters
  rw [childrenTrees_append] at agree
  obtain ⟨texts, bound⟩ := first (fun tree member =>
    agree tree (List.mem_append_left _ member)) parameters
  obtain ⟨laterTexts, laterBound⟩ := second (fun tree member =>
    agree tree (List.mem_append_right _ member)) (inOrder parts parameters).2
  rw [writeChildren_append, inOrder_append, bound]
  refine ⟨?_, laterBound⟩
  rw [written] at texts laterTexts ⊢
  rw [written, List.map_append, List.filter_append, List.filter_append, texts, laterTexts]
  rfl

theorem cons {child : Child} {children : List Child} {part : Writing String}
    {parts : List (Writing String)} (first : Prints mode embedded [child] [part])
    (others : Prints mode embedded children parts) :
    Prints mode embedded (child :: children) (part :: parts) :=
  first.append others

/-- One part for each element prints one child for each element. -/
theorem map {α : Type} {child : α → Child} {part : α → Writing String}
    (each : ∀ element, Prints mode embedded [child element] [part element]) (elements : List α) :
    Prints mode embedded (elements.map child) (elements.map part) := by
  induction elements with
  | nil => exact nil
  | cons element rest ih => exact (each element).cons ih

/-- A token prints the leaf that holds it. -/
theorem leaf (token : Token) :
    Prints mode embedded [.leaf token] [token.print mode embedded] := by
  intro agree parameters
  have print := token.print_eq_write fun tree member =>
    agree tree (List.mem_append_left _ member)
  rw [print]
  exact ⟨rfl, rfl⟩

/-- Tokens print their leaves. -/
theorem leaves (tokens : List Token) :
    Prints mode embedded (tokens.map .leaf) (tokens.map fun token => token.print mode embedded) :=
  map leaf tokens

/-- Raw text. -/
theorem raw (text : String) : Prints mode embedded [.leaf (.name text)] [pure text] := by
  rw [← Token.print_name text]
  exact leaf (.name text)

/-- A node is printed by what its layout makes of the texts under it. -/
theorem node {kind : NodeKind} {children : List Child} {parts : List (Writing String)}
    (prints : Prints mode embedded children parts) (compose : List String → String)
    (composed : ∀ fragments : List Fragment,
      (∀ fragment ∈ fragments, ∃ child ∈ children, fragment.glue = child.glue) →
      kind.layout.compose fragments = compose (written (fragments.map Fragment.text))) :
    Prints mode embedded [.node kind children]
      [do let texts ← inOrder parts; pure (compose (written texts))] := by
  intro agree parameters
  obtain ⟨texts, bound⟩ := prints (fun tree member =>
    agree tree (List.mem_append_left _ member)) parameters
  have text := composed (writeChildren mode children parameters).1
    (glue_writeChildren children parameters)
  rw [texts] at text
  simp [writeChildren, Child.write, inOrder, text, bound]

/-- Blanks stand between the children of a node that has them, whatever the children
are; so its own glue makes no difference. -/
theorem compose_spaced {kind : NodeKind} {keyword : String} {glue : Glue}
    (layout : kind.layout = { NodeKind.spaced keyword with glue := glue })
    (fragments : List Fragment) :
    kind.layout.compose fragments =
      (NodeKind.spaced keyword).headed (joined " " (fragments.map Fragment.text)) := by
  have kept : ∀ fragment ∈ fragments, kind.layout.before fragment.glue = kind.layout.separator := by
    intro fragment _
    rw [layout]
    cases fragment.glue <;> rfl
  rw [kind.layout.compose_eq kept, layout]
  rfl

/-- The parts of a phrase, glued as its layout says, print its node. -/
theorem phrase {kind : NodeKind} {glue : Glue} {children : List Child}
    {parts : List (Writing String)} (prints : Prints mode embedded children parts)
    (layout : kind.layout = { NodeKind.spaced "" with glue := glue }) :
    Prints mode embedded [.node kind children] [Printer.phrase parts] := by
  apply prints.node (" ".intercalate ·)
  intro fragments _
  rw [compose_spaced layout]
  rfl

/-- A keyword and its parts, set apart by blanks, print a node with that layout. -/
theorem spaced {kind : NodeKind} {keyword : String} {children : List Child}
    {parts : List (Writing String)} (prints : Prints mode embedded children parts)
    (layout : kind.layout = NodeKind.spaced keyword) (named : keyword.isEmpty = false) :
    Prints mode embedded [.node kind children] [Printer.spaced keyword parts] := by
  apply prints.node fun texts => behind keyword (" ".intercalate texts)
  intro fragments _
  have composed := compose_spaced
    (layout : kind.layout = { NodeKind.spaced keyword with glue := .separator }) fragments
  rw [composed, Layout.headed, NodeKind.spaced, named]
  rfl

/-- The terms of a group are put in parentheses when there are several. -/
theorem grouped {children : List Child} {parts : List (Writing String)}
    (prints : Prints mode embedded children parts) :
    Prints mode embedded [.node .group children] [Printer.grouped parts] := by
  apply prints.node fun texts =>
    if 1 < texts.length then "(" ++ " ".intercalate texts ++ ")" else " ".intercalate texts
  intro fragments _
  have kept : ∀ fragment ∈ fragments,
      NodeKind.group.layout.before fragment.glue = NodeKind.group.layout.separator := by
    intro fragment _
    cases fragment.glue <;> rfl
  rw [NodeKind.group.layout.compose_eq kept]
  simp [NodeKind.layout, NodeKind.spaced, Layout.wraps, Layout.headed, joined]

/-- Commas stand between the children of a node that has them, as long as no child has
a glue of its own. -/
theorem compose_listed {kind : NodeKind} {keyword : String} {parens : Parens}
    {children : List Child}
    (layout : kind.layout = { NodeKind.listed keyword with parens := parens })
    (kept : ∀ child ∈ children, child.glue = .separator) (fragments : List Fragment)
    (glued : ∀ fragment ∈ fragments, ∃ child ∈ children, fragment.glue = child.glue) :
    kind.layout.compose fragments =
      (NodeKind.listed keyword).headed
        (if kind.layout.wraps (written (fragments.map Fragment.text)).length then
          "(" ++ joined ", " (fragments.map Fragment.text) ++ ")"
        else joined ", " (fragments.map Fragment.text)) := by
  have separated : ∀ fragment ∈ fragments,
      kind.layout.before fragment.glue = kind.layout.separator := by
    intro fragment member
    obtain ⟨child, among, same⟩ := glued fragment member
    rw [same, kept child among]
    rfl
  rw [kind.layout.compose_eq separated, layout]
  rfl

/-- Parts set apart by commas print the items node. -/
theorem items {children : List Child} {parts : List (Writing String)}
    (prints : Prints mode embedded children parts)
    (kept : ∀ child ∈ children, child.glue = .separator) :
    Prints mode embedded [.node .items children] [Printer.items parts] := by
  apply prints.node (", ".intercalate ·)
  intro fragments glued
  rw [compose_listed (rfl : NodeKind.items.layout = NodeKind.listed "") kept fragments glued]
  rfl

/-- A keyword and its parts, set apart by commas, print a node with that layout. -/
theorem listed {kind : NodeKind} {keyword : String} {children : List Child}
    {parts : List (Writing String)} (prints : Prints mode embedded children parts)
    (kept : ∀ child ∈ children, child.glue = .separator)
    (layout : kind.layout = NodeKind.listed keyword) (named : keyword.isEmpty = false) :
    Prints mode embedded [.node kind children] [Printer.listed keyword parts] := by
  apply prints.node fun texts => behind keyword (", ".intercalate texts)
  intro fragments glued
  have composed := compose_listed
    (layout : kind.layout = { NodeKind.listed keyword with parens := .never }) kept fragments glued
  rw [composed, layout, Layout.headed, NodeKind.listed, named]
  rfl

/-- A keyword and its parenthesised parts print a node with that layout. -/
theorem parenthesised {kind : NodeKind} {keyword : String} {children : List Child}
    {parts : List (Writing String)} (prints : Prints mode embedded children parts)
    (kept : ∀ child ∈ children, child.glue = .separator)
    (layout : kind.layout = { NodeKind.listed keyword with parens := .always })
    (named : keyword.isEmpty = false) :
    Prints mode embedded [.node kind children] [Printer.parenthesised keyword parts] := by
  apply prints.node fun texts => behind keyword ("(" ++ ", ".intercalate texts ++ ")")
  intro fragments glued
  rw [compose_listed layout kept fragments glued, layout, Layout.headed, NodeKind.listed, named]
  rfl

/-- A clause that is left out when it has no elements. -/
theorem unlessEmpty {α : Type} {elements : List α} {children : List Child}
    {clause : Writing String} (prints : Prints mode embedded children [clause]) :
    Prints mode embedded (if elements.isEmpty then [] else children)
      [Printer.unlessEmpty elements clause] := by
  rw [Printer.unlessEmpty]
  split
  · exact absent
  · exact prints

end Prints

/-- The clauses of a tree without open nodes are printed as its walk writes it. -/
theorem Prints.walk_here {children : List Child} {parts : List (Writing String)}
    (prints : Prints mode embedded children parts)
    (agree : ∀ tree ∈ childrenTrees children, embedded tree = tree.walk mode) :
    (Tree.here children).walk mode = Printer.clauses parts := by
  funext parameters
  obtain ⟨texts, bound⟩ := prints agree parameters
  have root := Prints.compose_spaced
    (rfl : NodeKind.root.layout = { NodeKind.spaced "" with glue := .separator })
    (writeChildren mode children parameters).1
  rw [joined, texts] at root
  simp [Tree.walk, Tree.write, treeText, Printer.clauses, Printer.phrase, joined, root, bound,
    Layout.headed, NodeKind.spaced]

end ClauseTree
