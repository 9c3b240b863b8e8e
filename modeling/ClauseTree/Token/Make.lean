import ClauseTree.Operator
import ClauseTree.Token.Basic

/-!
# Making tokens

The pieces of SQL that statements are written from.  A value is either written
out wherever it stands, or prepared: then prepared text binds it and has a
placeholder in its place.
-/

namespace ClauseTree

namespace TokenKind

def isList : TokenKind → Bool
  | .list _ => true
  | _ => false

end TokenKind

namespace Token

/-- A token without cast and alias. -/
def plain (kind : TokenKind) : Token :=
  ⟨kind, none, none⟩

/-- Raw text. -/
def name (text : String) : Token :=
  plain (.name text)

/-- A dotted identifier with every part quoted. -/
def quotedName (text : String) : Token :=
  plain (.quotedName text)

/-- A value that is written out in prepared text too. -/
def number (value : Value) : Token :=
  plain (.constant value false)

/-- A value that is bound in prepared text. -/
def constant (value : Value) : Token :=
  plain (.constant value true)

/-- A bound text. -/
def string (text : String) : Token :=
  constant (.text text)

/-- `NULL`, written out. -/
def null : Token :=
  number .null

/-- A text between dollar delimiters. -/
def dollarString (body : String) (tag : Option String) : Token :=
  plain (.dollarString body tag)

/-- `ARRAY[a, b]` -/
def array (items : List Token) : Token :=
  plain (.array items)

/-- `(a, b)` -/
def list (items : List Token) : Token :=
  plain (.list items)

/-- `('a', 'b')` with the texts written out. -/
def stringList (texts : List String) : Token :=
  list (texts.map fun text => number (.text text))

/-- `function(argument)` -/
def call (function : String) (argument : Token) : Token :=
  plain (.call function argument)

/-- `function(a, b)` -/
def callWith (function : String) (arguments : List Token) : Token :=
  call function (list arguments)

/-- `function()` -/
def emptyCall (function : String) : Token :=
  plain (.emptyCall function)

/-- `ROLLUP(a, b)`, an element of a grouping. -/
def rollup (items : List Token) : Token :=
  callWith "ROLLUP" items

/-- `CUBE(a, b)`, an element of a grouping. -/
def cube (items : List Token) : Token :=
  callWith "CUBE" items

/-- An operator or keyword by itself. -/
def operator (symbol : String) : Token :=
  plain (.operator symbol)

/-- An operator with its operand directly behind it. -/
def applied (symbol : String) (operand : Token) : Token :=
  plain (.applied symbol operand)

/-- The raw text of a common operator. -/
def ofOperator (operator : Operator) : Token :=
  name operator.symbol

/-- A statement in parentheses. -/
def subQuery (tree : Tree) : Token :=
  plain (.subQuery tree)

/-- A statement without parentheses. -/
def statement (tree : Tree) : Token :=
  plain (.statement tree)

/-- `(VALUES(1, 2), (3, 4))` -/
def values (rows : List (List Token)) : Token :=
  plain (.values rows)

/-- The token cast to a type; an earlier cast is replaced. -/
def cast (token : Token) (type : String) : Token :=
  { token with castType := some type }

/-- The token under a name, with column names or none; an earlier alias is
replaced. -/
def aliased (token : Token) (name : String) (columns : List String) : Token :=
  { token with outputName := some ⟨name, columns⟩ }

/-- The same constant, bound in prepared text.  Other tokens stay as they are. -/
def prepared (token : Token) : Token :=
  match token.kind with
  | .constant value _ => { token with kind := .constant value true }
  | _ => token

/-- Whether the token is a value that prepared text binds. -/
def isPrepared (token : Token) : Bool :=
  match token.kind with
  | .constant _ prepared => prepared
  | _ => false

/-- The value of a constant. -/
def value? (token : Token) : Option Value :=
  match token.kind with
  | .constant value _ => some value
  | _ => none

end Token

end ClauseTree
