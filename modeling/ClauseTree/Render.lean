import ClauseTree.Fragment
import ClauseTree.Identifier
import ClauseTree.Parameters
import ClauseTree.Tree.Build

/-!
# Rendering

One walk writes a tree as text, in one of two modes.  Literal text holds every
value written out; prepared text has a placeholder in place of every prepared
constant, and the constants are bound in the order in which the walk meets
them.  The text of every tree, the embedded ones included, is trimmed.
-/

namespace ClauseTree

/-! ### The walk -/

/-- What becomes of prepared constants. -/
inductive Mode where
  | literal
  | prepared (style : Placeholder)
deriving DecidableEq, Repr

/-- Writing text while binding parameters: what is written depends on the
parameters bound before, and more of them may be bound. -/
def Writing (α : Type) : Type :=
  Parameters → α × Parameters

namespace Writing

instance : Monad Writing where
  pure a := fun parameters => (a, parameters)
  bind write next := fun parameters =>
    let (a, parameters) := write parameters
    next a parameters

/-- Writing a constant leaves the parameters as they are. -/
@[simp] theorem pure_apply {α : Type} (a : α) (parameters : Parameters) :
    (pure a : Writing α) parameters = (a, parameters) := rfl

/-- The second writer goes on with the parameters that the first one has left. -/
@[simp] theorem bind_apply {α β : Type} (write : Writing α) (next : α → Writing β)
    (parameters : Parameters) :
    (write >>= next) parameters = next (write parameters).1 (write parameters).2 := rfl

end Writing

/-- Bind a token and write its placeholder. -/
def bindToken (style : Placeholder) (token : Token) : Writing String := fun parameters =>
  let (position, parameters) := parameters.push token
  (style.text position, parameters)

/-- The parts of a list with commas between them. -/
def commaSeparated (texts : List String) : String :=
  ", ".intercalate texts

/-- The cast and the alias behind a token. -/
def suffix (castType : Option String) (outputName : Option Alias) : String :=
  let cast :=
    match castType with
    | none => ""
    | some type => "::" ++ type
  let name :=
    match outputName with
    | none => ""
    | some ⟨name, columns⟩ =>
        " AS " ++ name ++
          if columns.isEmpty then "" else "(" ++ commaSeparated columns ++ ")"
  cast ++ name

mutual

/-- The text of a token: what it is, then its cast and its alias. -/
def Token.write (mode : Mode) : Token → Writing String
  | ⟨kind, castType, outputName⟩ => do
      let text ← kind.write mode ⟨kind, castType, outputName⟩
      pure (text ++ suffix castType outputName)

/-- The text of a token without cast and alias.  A prepared constant binds the
whole of its token. -/
def TokenKind.write (mode : Mode) (whole : Token) : TokenKind → Writing String
  | .name text => pure text
  | .quotedName text => pure (Identifier.quoted text)
  | .constant value prepared =>
      match mode, prepared with
      | .prepared style, true => bindToken style whole
      | _, _ => pure value.sql
  | .dollarString body tag => pure (Text.dollarQuoted body tag)
  | .array items => do
      let texts ← writeTokens mode items
      pure ("ARRAY[" ++ commaSeparated texts ++ "]")
  | .list items => do
      let texts ← writeTokens mode items
      pure ("(" ++ commaSeparated texts ++ ")")
  | .call name argument => do
      let text ← argument.write mode
      pure (if argument.kind.isList then name ++ text else name ++ "(" ++ text ++ ")")
  | .emptyCall name => pure (name ++ "()")
  | .operator symbol => pure symbol
  | .applied symbol operand => do
      let text ← operand.write mode
      pure (symbol ++ text)
  | .subQuery tree => do
      let fragments ← tree.write mode
      pure ("(" ++ treeText fragments ++ ")")
  | .statement tree => do
      let fragments ← tree.write mode
      pure (treeText fragments)
  | .values rows => do
      let texts ← writeRows mode rows
      pure ("(VALUES" ++ commaSeparated texts ++ ")")

/-- The texts of several tokens. -/
def writeTokens (mode : Mode) : List Token → Writing (List String)
  | [] => pure []
  | token :: rest => do
      let text ← token.write mode
      let texts ← writeTokens mode rest
      pure (text :: texts)

/-- The texts of rows of values, each in parentheses. -/
def writeRows (mode : Mode) : List (List Token) → Writing (List String)
  | [] => pure []
  | row :: rest => do
      let items ← writeTokens mode row
      let texts ← writeRows mode rest
      pure (("(" ++ commaSeparated items ++ ")") :: texts)

/-- The fragment of a child. -/
def Child.write (mode : Mode) : Child → Writing Fragment
  | .leaf token => do
      let text ← token.write mode
      pure ⟨.separator, text⟩
  | .node kind children => do
      let fragments ← writeChildren mode children
      pure ⟨kind.layout.glue, kind.layout.compose fragments⟩

/-- The fragments of several children. -/
def writeChildren (mode : Mode) : List Child → Writing (List Fragment)
  | [] => pure []
  | child :: rest => do
      let fragment ← child.write mode
      let fragments ← writeChildren mode rest
      pure (fragment :: fragments)

/-- The fragments of the children of a root.  An open node is written like a
closed one. -/
def Tree.write (mode : Mode) : Tree → Writing (List Fragment)
  | .here children => writeChildren mode children
  | .inside before kind rest => do
      let fragments ← writeChildren mode before
      let inner ← rest.write mode
      pure (fragments ++ [⟨kind.layout.glue, kind.layout.compose inner⟩])

end

/-- The children of two lists are written in a row, and the second ones go on with the
parameters of the first. -/
theorem writeChildren_append {mode : Mode} (first second : List Child)
    (parameters : Parameters) :
    writeChildren mode (first ++ second) parameters =
      ((writeChildren mode first parameters).1 ++
          (writeChildren mode second (writeChildren mode first parameters).2).1,
        (writeChildren mode second (writeChildren mode first parameters).2).2) := by
  induction first generalizing parameters with
  | nil => rfl
  | cons child rest ih => simp [writeChildren, ih]

/-- The walk over a tree is the walk over the children of its root. -/
theorem Tree.write_eq (mode : Mode) : ∀ (tree : Tree) (parameters : Parameters),
    tree.write mode parameters = writeChildren mode tree.children parameters
  | .here _, _ => rfl
  | .inside before kind rest, parameters => by
      have ih := rest.write_eq mode
      simp [Tree.write, Tree.children, writeChildren_append, writeChildren, Child.write, ih]

/-! ### Texts -/

/-- The literal text of a token. -/
def Token.text (token : Token) : String :=
  (token.write .literal .empty).1

/-- Prepared text and the parameters that its placeholders stand for. -/
structure Prepared where
  sql : String
  parameters : Parameters
deriving BEq

namespace Tree

/-- The text of a tree in one of the modes, and what it binds. -/
def render (mode : Mode) (tree : Tree) : Prepared :=
  let (fragments, parameters) := tree.write mode .empty
  ⟨treeText fragments, parameters⟩

/-- The text of a tree with every value written out. -/
def sql (tree : Tree) : String :=
  (tree.render .literal).sql

/-- The text of a tree with placeholders, and what they stand for. -/
def prepared (style : Placeholder) (tree : Tree) : Prepared :=
  tree.render (.prepared style)

/-- A tree is complete when no node is open and something hangs under its
root. -/
def checkComplete (tree : Tree) : Except BuildError Unit :=
  if 0 < tree.depth then .error (.unclosedNodes tree.depth)
  else if tree.isEmpty then .error .emptyTree
  else .ok ()

end Tree

end ClauseTree
