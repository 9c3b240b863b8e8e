import ClauseTree.Arena.Basic
import ClauseTree.Render

/-!
# Walks over an arena

Reading an arena means going from its root to the children that each node names.  A tree
that a token holds is an arena of its own.  A walk has no result when it comes to a number
that no node has, or when it never ends.

The text of a node is put together while the walk goes over its children: each of them is
written behind the text so far, if there is anything to write.
-/

namespace ClauseTree

/-! ### The text of a node -/

/-- What has been written of the children of a node, and of how many of them. -/
structure Body where
  text : String
  count : Nat

namespace Body

def empty : Body := { text := "", count := 0 }

/-- Write one more child, unless its fragment is empty. -/
def add (layout : Layout) (body : Body) (fragment : Fragment) : Body :=
  if fragment.text.isEmpty then body
  else
    let before := if 0 < body.count then layout.before fragment.glue else ""
    { text := body.text ++ before ++ fragment.text, count := body.count + 1 }

/-- The text of the whole node. -/
def finish (layout : Layout) (body : Body) : String :=
  layout.headed (if layout.wraps body.count then "(" ++ body.text ++ ")" else body.text)

end Body

/-! ### Walks -/

/-- What a walk leaves behind: the parameters bound so far, and the nodes that it has come
to, in order. -/
structure Trace where
  parameters : Parameters
  visited : List Nat

/-- A walk that may have no result. -/
abbrev Walk : Type → Type :=
  StateT Trace Option

namespace Walk

/-- Write something that stands outside any arena. -/
def writing {α : Type} (write : Writing α) : Walk α := fun trace =>
  let (a, parameters) := write trace.parameters
  some (a, { trace with parameters := parameters })

/-- Note that the walk has come to a node. -/
def visit (number : Nat) : Walk Unit :=
  modify fun trace => { trace with visited := trace.visited ++ [number] }

end Walk

def Arena.node? (arena : Arena) (number : Nat) : Walk Node := fun trace =>
  (arena.nodes[number]?).map fun node => (node, trace)

mutual

/-- The text of a token: what it is, then its cast and its alias. -/
def Token.walk (mode : Mode) (token : Token) : Walk String := do
  let text ← token.kind |>.walk mode token
  pure (text ++ suffix token.castType token.outputName)
partial_fixpoint

/-- The text of a token without cast and alias.  A tree that it holds is written from its own
arena. -/
def TokenKind.walk (mode : Mode) (whole : Token) (kind : TokenKind) : Walk String :=
  match kind with
  | .name text => pure text
  | .quotedName text => pure (Identifier.quoted text)
  | .constant value prepared =>
      match mode, prepared with
      | .prepared style, true => Walk.writing (bindToken style whole)
      | _, _ => pure value.sql
  | .dollarString body tag => pure (Text.dollarQuoted body tag)
  | .array items => do
      let texts ← items.mapM (· |>.walk mode)
      pure ("ARRAY[" ++ commaSeparated texts ++ "]")
  | .list items => do
      let texts ← items.mapM (· |>.walk mode)
      pure ("(" ++ commaSeparated texts ++ ")")
  | .call name argument => do
      let text ← argument |>.walk mode
      pure (if argument.kind.isList then name ++ text else name ++ "(" ++ text ++ ")")
  | .emptyCall name => pure (name ++ "()")
  | .operator symbol => pure symbol
  | .applied symbol operand => do
      let text ← operand |>.walk mode
      pure (symbol ++ text)
  | .subQuery tree => do
      let text ← tree.arena |>.walk mode
      pure ("(" ++ text ++ ")")
  | .statement tree => tree.arena |>.walk mode
  | .values rows => do
      let texts ← rows.mapM fun row => do
        let items ← row.mapM (· |>.walk mode)
        pure ("(" ++ commaSeparated items ++ ")")
      pure ("(VALUES" ++ commaSeparated texts ++ ")")
partial_fixpoint

/-- The text of an arena.  The nodes that the walk comes to on the way are not noted beside
those of the arena around it. -/
def Arena.walk (mode : Mode) (arena : Arena) : Walk String := do
  let outside ← get
  set { outside with visited := [] }
  let text ← arena |>.writeNode mode 0
  modify fun inside => { inside with visited := outside.visited }
  pure (Text.trim text)
partial_fixpoint

/-- The text of a node. -/
def Arena.writeNode (mode : Mode) (arena : Arena) (number : Nat) : Walk String := do
  let node ← arena.node? number
  Walk.visit number
  let body ← node.entries.foldlM (arena |>.writeEntry mode node.kind.layout) Body.empty
  pure (body.finish node.kind.layout)
partial_fixpoint

/-- Write one child behind those before it. -/
def Arena.writeEntry (mode : Mode) (arena : Arena) (layout : Layout) (body : Body)
    (entry : Entry) : Walk Body :=
  match entry with
  | .leaf token => do
      let text ← token |>.walk mode
      pure (body.add layout ⟨.separator, text⟩)
  | .node child => do
      let text ← arena |>.writeNode mode child
      let node ← arena.node? child
      pure (body.add layout ⟨node.kind.layout.glue, text⟩)
partial_fixpoint

end

namespace Arena

/-- The text of a whole arena, and what it binds. -/
def render (mode : Mode) (arena : Arena) : Option Prepared := do
  let (text, trace) ← arena.walk mode { parameters := .empty, visited := [] }
  pure ⟨text, trace.parameters⟩

/-- An arena is complete when no node is open and something hangs under its root. -/
def checkComplete (arena : Arena) : Except BuildError Unit :=
  if 0 < arena.depth then .error (.unclosedNodes arena.depth)
  else if arena.isEmpty then .error .emptyTree
  else .ok ()

/-- The text of a complete arena. -/
def strictRender (mode : Mode) (arena : Arena) : Except BuildError (Option Prepared) := do
  arena.checkComplete
  pure (arena.render mode)

/-! ### Reading -/

mutual

/-- The node with a number, with all that hangs under it. -/
def readNode (arena : Arena) (number : Nat) : Option Child := do
  let node ← arena.nodes[number]?
  let children ← node.entries.mapM (arena |>.readEntry)
  pure (.node node.kind children)
partial_fixpoint

def readEntry (arena : Arena) (entry : Entry) : Option Child :=
  match entry with
  | .leaf token => some (.leaf token)
  | .node child => arena |>.readNode child
partial_fixpoint

end

/-- The tree below a path of open nodes: the last child of each but the innermost is the
next node of the path. -/
def treeBelow? (arena : Arena) (number : Nat) : List Nat → Option Tree
  | [] => do
      let node ← arena.nodes[number]?
      let children ← node.entries.mapM arena.readEntry
      pure (.here children)
  | next :: path => do
      let node ← arena.nodes[number]?
      let before ← node.entries.dropLast.mapM arena.readEntry
      let opening ← arena.nodes[next]?
      let rest ← arena.treeBelow? next path
      pure (.inside before opening.kind rest)

/-- The tree that an arena holds. -/
def tree? (arena : Arena) : Option Tree :=
  arena.treeBelow? 0 arena.opened.tail

end Arena

end ClauseTree
