import ClauseTree.NodeKind
import ClauseTree.Value

/-!
# Tokens and trees

A token is a leaf of a clause tree: a piece of SQL with an optional cast and an
optional alias.  A tree is what has been written of one statement so far.  The
two are defined together, because a sub-query is a token that holds a tree.

A tree that is still being written has a path of open nodes from the root, and
each of them is the last child of the one before.  The type says so: a tree is
either a list of children at the place where writing goes on, or finished
children followed by an open node.  So every value of the type is a tree that
writing can produce.

Raw texts are trusted and written as they are.
-/

namespace ClauseTree

/-- An output name, with or without column names. -/
structure Alias where
  name : String
  columns : List String
deriving DecidableEq, Repr

mutual

/-- A leaf: what it is, the type it is cast to, and the name it is given. -/
structure Token where
  kind : TokenKind
  castType : Option String
  outputName : Option Alias

/-- What a leaf is. -/
inductive TokenKind where
  /-- Raw text: a name, an expression, a keyword. -/
  | name (text : String)
  /-- A dotted identifier, each part of which is quoted. -/
  | quotedName (text : String)
  /-- A value.  A prepared one becomes a placeholder in prepared text. -/
  | constant (value : Value) (prepared : Bool)
  /-- A text between dollar delimiters. -/
  | dollarString (body : String) (tag : Option String)
  /-- `ARRAY[a, b]` -/
  | array (items : List Token)
  /-- `(a, b)` -/
  | list (items : List Token)
  /-- `name(argument)`; an argument that is a list brings its own parentheses. -/
  | call (name : String) (argument : Token)
  /-- `name()` -/
  | emptyCall (name : String)
  /-- An operator or keyword by itself. -/
  | operator (symbol : String)
  /-- An operator with its operand directly behind it. -/
  | applied (symbol : String) (operand : Token)
  /-- A statement in parentheses. -/
  | subQuery (tree : Tree)
  /-- A statement without parentheses. -/
  | statement (tree : Tree)
  /-- `(VALUES(1, 2), (3, 4))` -/
  | values (rows : List (List Token))

/-- A child of a node. -/
inductive Child where
  | leaf (token : Token)
  | node (kind : NodeKind) (children : List Child)

/-- What has been written of a statement. -/
inductive Tree where
  /-- Writing goes on behind these children. -/
  | here (children : List Child)
  /-- Behind these children stands a node that is still open. -/
  | inside (before : List Child) (kind : NodeKind) (rest : Tree)

end

instance : Inhabited Token := ⟨⟨.name "", none, none⟩⟩
instance : Inhabited Tree := ⟨.here []⟩

end ClauseTree
