import ClauseTree.NodeKind
import ClauseTree.Text.Blank

/-!
# Fragments

How the text of a node is put together from the texts of its children.  A child
that is written as the empty text leaves no trace: no separator stands beside
it, and it does not count where the parentheses depend on the number of
children.
-/

namespace ClauseTree

/-- A written child: its text and how it is joined to the one before it. -/
structure Fragment where
  glue : Glue
  text : String
deriving DecidableEq, Repr

namespace Layout

/-- What stands in front of a fragment that is not the first. -/
def before (layout : Layout) : Glue → String
  | .separator => layout.separator
  | .space => " "

/-- Fragments behind another one, each with what joins it to the one before. -/
def joinRest (layout : Layout) : List Fragment → String
  | [] => ""
  | next :: rest => layout.before next.glue ++ next.text ++ layout.joinRest rest

/-- Non-empty fragments one after the other. -/
def joinWritten (layout : Layout) : List Fragment → String
  | [] => ""
  | first :: rest => first.text ++ layout.joinRest rest

/-- Whether so many written children are put in parentheses. -/
def wraps (layout : Layout) (count : Nat) : Bool :=
  match layout.parens with
  | .never => false
  | .always => true
  | .whenMany => 1 < count

/-- The keyword in front of a body; no blank stands beside an empty one. -/
def headed (layout : Layout) (body : String) : String :=
  if layout.keyword.isEmpty then body
  else if body.isEmpty then layout.keyword
  else layout.keyword ++ " " ++ body

/-- The text of a node from the fragments of its children. -/
def compose (layout : Layout) (fragments : List Fragment) : String :=
  let written := fragments.filter fun fragment => !fragment.text.isEmpty
  let body := layout.joinWritten written
  layout.headed (if layout.wraps written.length then "(" ++ body ++ ")" else body)

end Layout

/-- The text of a tree from the fragments under its root. -/
def treeText (fragments : List Fragment) : String :=
  Text.trim (NodeKind.root.layout.compose fragments)

end ClauseTree
